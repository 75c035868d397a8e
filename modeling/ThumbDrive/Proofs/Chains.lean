import ThumbDrive.Proofs.Progress
import ThumbDrive.Proofs.Session

/-! # Chains of clusters, also broken ones

Nothing is assumed here of what is on the disk.  An entry of the allocation table may lie outside of
the table, a chain may end before the file does, and a cluster may be anywhere, also behind the end
of the window.  What is known of a chain is said without any reading: the cluster of each number,
or why there is none, or the error that keeps it from being known (`Volume.chainAt`).

From that follows what there is at an offset of a file (`Volume.outlook`): a byte, or nothing, or an
error.  A file is handed out in chunks up to the first offset without a byte, whatever the sizes of
the chunks and of what the stream brings of them (`FileStream.drain_bare`).  The invariant is the
place of the cursor: after `o` bytes it has `o` for its offset and the cluster with the byte before
for its current cluster (`FileCursor.Past`).

All of that is about the bare disk, on which no read fails. -/
namespace ThumbDrive

open BlockStream (Stalls directLimit)
open Pairing (readWithin_nil readWithin_cons)
open Session (answer)

/-! ## Numbers -/

theorem div_eq_of_between {size o i : Nat} (hlower : i * size ≤ o) (hupper : o < i * size + size) :
    o / size = i :=
  Nat.div_eq_of_lt_le hlower (by rwa [Nat.succ_mul])

/-- A place further on in the same piece. -/
theorem div_mod_add {size o i : Nat} (h : o % size + i < size) :
    (o + i) / size = o / size ∧ (o + i) % size = o % size + i := by
  have hsplit := Nat.div_add_mod' o size
  have hdiv : (o + i) / size = o / size := div_eq_of_between (by omega) (by omega)
  have hsplit' := Nat.div_add_mod' (o + i) size
  rw [hdiv] at hsplit'
  exact ⟨hdiv, by omega⟩

/-! ## Where a read brings something -/

instance (size length position n : Nat) : Decidable (Stalls size length position n) :=
  decidable_of_iff (directLimit < size ∧ position % size = 0 ∧ size ≤ min (length - position) n)
    ⟨fun ⟨hlarge, haligned, hwhole⟩ => ⟨hlarge, haligned, hwhole⟩,
      fun h => ⟨h.large, h.aligned, h.whole⟩⟩

/-- Nothing stalls where blocks are not too large, or where little is asked for. -/
theorem BlockStream.not_stalls {size length position n : Nat}
    (h : size ≤ directLimit ∨ n ≤ directLimit) : ¬ Stalls size length position n := by
  intro hs
  have hlarge := hs.large
  have hwhole := hs.whole
  omega

namespace Window
variable {w : Window} {position n : Nat}

/-- Whether a read of at most `n` bytes at a position brings any. -/
def yields (w : Window) (position n : Nat) : Bool :=
  0 < n ∧ position < w.length ∧ ¬ Stalls w.disk.blockSize w.length position n

theorem yields_iff :
    w.yields position n = true ↔
      0 < n ∧ position < w.length ∧ ¬ Stalls w.disk.blockSize w.length position n :=
  decide_eq_true_iff

theorem span_pos_iff : 0 < w.span position n ↔ w.yields position n = true := by
  rw [yields_iff]
  by_cases hnone : n = 0 ∨ w.length ≤ position
  · have hspan : w.span position n = 0 := if_pos hnone
    rw [hspan]
    omega
  · have hzero : w.span position n = 0 ↔ Stalls w.disk.blockSize w.length position n :=
      span_eq_zero_iff (by omega) (by omega)
    rw [Nat.pos_iff_ne_zero, ne_eq, hzero]
    constructor
    · intro hs
      exact ⟨by omega, by omega, hs⟩
    · intro h
      exact h.2.2

/-- Whatever a single read brings could be read from any place in it on: a read does not go past the
start of a block that is too large. -/
theorem yields_of_lt_span {i m : Nat} (hi : i < w.span position n) (hm : 0 < m)
    (hfirst : i = 0 → m = n) : w.yields (position + i) m = true := by
  have hsome : w.yields position n = true := span_pos_iff.mp (by omega)
  obtain ⟨hn, hin, hfree⟩ := yields_iff.mp hsome
  have hleft := w.span_le_left position n
  refine yields_iff.mpr ⟨hm, by omega, ?_⟩
  intro hs
  by_cases hstart : i = 0
  · rw [hstart, hfirst hstart] at hs
    exact hfree hs
  · have hpos := w.blockSize_pos
    have hmod := Nat.mod_lt position hpos
    have hlarge := hs.large
    have haligned := hs.aligned
    have hle : w.span position n ≤ w.disk.blockSize - position % w.disk.blockSize := by
      unfold span
      rw [if_neg (by omega)]
      dsimp only
      split
      · next hwhole => exact absurd ⟨hlarge, hwhole.1, hwhole.2⟩ hfree
      · omega
    -- so the place is inside the block, and not where it starts
    have hinside : (position + i) % w.disk.blockSize = position % w.disk.blockSize + i := by
      rw [Nat.add_mod, Nat.mod_eq_of_lt (show i < w.disk.blockSize by omega)]
      exact Nat.mod_eq_of_lt (by omega)
    omega

/-- An open stream of the disk, wherever it stands. -/
def Bare (w : Window) (t : BlockStream Disk) : Prop :=
  BlockStream.Shows (fun d => d = w.disk) w t ∧ t.isOpen = true

end Window

/-! ## Reading at a place -/

variable {w : Window} {t : BlockStream Disk}

theorem BlockStream.readAt_bare (ht : w.Bare t) (position n : Nat) :
    ∃ t', readAt position n t = .ok (w.slice position (w.span position n)) t' ∧ w.Bare t' := by
  obtain ⟨t', hread, hshows, -, hopen⟩ := read_disk (ht.1.move position) ht.2 n
  exact ⟨t', hread, hshows, hopen⟩

namespace Region

/-- **Filling a buffer from a region**, which is not too large to be read at once.  It is filled
unless the region or the window ends before. -/
theorem readWithin_bare (r : Region) (rounds offset : Nat) {n : Nat} (ht : w.Bare t)
    (hn : n ≤ rounds) (hlimit : n ≤ directLimit) :
    ∃ z, w.Bare z.2 ∧ readWithin r.read rounds n (offset, t) =
      if n = 0 ∨ offset + n ≤ r.size ∧ r.start + offset + n ≤ w.length then
        .ok (w.slice (r.start + offset) n) z
      else .error IoError.shortRead z := by
  induction rounds generalizing n offset t with
  | zero =>
    obtain rfl : n = 0 := by omega
    exact ⟨(offset, t), ht, by rw [if_pos (.inl rfl)]; rfl⟩
  | succ rounds ih =>
    cases n with
    | zero => exact ⟨(offset, t), ht, by rw [if_pos (.inl rfl)]; rfl⟩
    | succ n =>
      obtain ⟨t', hread, ht'⟩ :=
        BlockStream.readAt_bare ht (r.start + offset) (min (r.size - offset) (n + 1))
      have hasked := w.span_le_asked (r.start + offset) (min (r.size - offset) (n + 1))
      have hleft := w.span_le_left (r.start + offset) (min (r.size - offset) (n + 1))
      have hyields : 0 < w.span (r.start + offset) (min (r.size - offset) (n + 1)) ↔
          w.yields (r.start + offset) (min (r.size - offset) (n + 1)) = true :=
        Window.span_pos_iff
      rw [Window.yields_iff] at hyields
      have hfree : ¬ Stalls w.disk.blockSize w.length (r.start + offset)
          (min (r.size - offset) (n + 1)) := BlockStream.not_stalls (.inr (by omega))
      have hstep : r.read (n + 1) (offset, t) = .ok (w.slice (r.start + offset)
          (w.span (r.start + offset) (min (r.size - offset) (n + 1))))
          (offset + w.span (r.start + offset) (min (r.size - offset) (n + 1)), t') := by
        rw [read_eq, hread]
        dsimp only
        rw [Window.length_slice]
      generalize w.span (r.start + offset) (min (r.size - offset) (n + 1)) = k at *
      cases k with
      | zero =>
        -- nothing is left of the region or of the window
        refine ⟨(offset + 0, t'), ht', ?_⟩
        rw [readWithin_nil hstep, if_neg]
        rintro (hzero | ⟨hsize, hin⟩)
        · cases hzero
        · have hsome := hyields.mpr ⟨by omega, by omega, hfree⟩
          omega
      | succ k =>
        obtain ⟨z, hz, hrest⟩ := ih (offset + (k + 1)) (n := n - k) ht' (by omega) (by omega)
        obtain ⟨b, got, hgot, hcount⟩ :=
          exists_cons_of_length (w.length_slice (r.start + offset) (k + 1))
        rw [hgot] at hstep
        refine ⟨z, hz, ?_⟩
        rw [readWithin_cons hstep, hcount, hrest]
        by_cases hall : offset + (n + 1) ≤ r.size ∧ r.start + offset + (n + 1) ≤ w.length
        · rw [if_pos (by omega), if_pos (by omega)]
          dsimp only
          rw [← hgot, ← Nat.add_assoc r.start, w.slice_append]
          congr 2
          omega
        · rw [if_neg (by omega), if_neg (by omega)]

theorem readExactAt_bare (r : Region) (offset : Nat) (ht : w.Bare t) {n : Nat} (hpos : 0 < n)
    (hlimit : n ≤ directLimit) :
    ∃ t', w.Bare t' ∧ r.readExactAt offset n t =
      if r.size < offset then .error seekError t'
      else if offset + n ≤ r.size ∧ r.start + offset + n ≤ w.length then
        .ok (w.slice (r.start + offset) n) t'
      else .error IoError.shortRead t' := by
  unfold readExactAt
  by_cases hbeyond : r.size < offset
  · exact ⟨t, ht, by rw [if_pos hbeyond, if_pos hbeyond]⟩
  · obtain ⟨⟨offset', t'⟩, ht', hread⟩ :=
      readWithin_bare r (n + interruptLimit) offset ht (Nat.le_add_right n _) hlimit
    have hexact : readExact r.read n (offset, t) = _ := hread
    refine ⟨t', ht', ?_⟩
    rw [if_neg hbeyond, if_neg hbeyond, hexact]
    by_cases hall : offset + n ≤ r.size ∧ r.start + offset + n ≤ w.length
    · rw [if_pos (.inr hall), if_pos hall]
    · rw [if_neg (by omega), if_neg hall]

end Region

/-! ## What the table records -/

namespace Volume
variable (v : Volume) (w : Window)

/-- The cluster that the table names after `cluster`, or why its entry cannot be read: it starts
behind the table, or it is cut off by the end of the table or of the window. -/
def tableEntry (cluster : Nat) : Except IoError (Option Nat) :=
  let (offset, length) := v.fatType.entrySpan cluster
  if v.fat.size < offset then .error Region.seekError
  else if offset + length ≤ v.fat.size ∧ v.fat.start + offset + length ≤ w.length then
    .ok (v.fatType.next? cluster (Bytes.ofLittle (w.slice (v.fat.start + offset) length)))
  else .error IoError.shortRead

/-- The cluster of that number in a chain.  There is none after the end of the chain, and none is
known after an entry that cannot be read. -/
def chainAt (first : Option Nat) : Nat → Except IoError (Option Nat)
  | 0 => .ok first
  | i + 1 =>
      match chainAt first i with
      | .ok (some cluster) => v.tableEntry w cluster
      | .ok none => .ok none
      | .error e => .error e

variable {v w}

theorem chainAt_succ {first : Option Nat} {i cluster : Nat}
    (h : v.chainAt w first i = .ok (some cluster)) :
    v.chainAt w first (i + 1) = v.tableEntry w cluster := by
  simp only [chainAt, h]

theorem nextCluster?_bare (ht : w.Bare t) (v : Volume) (cluster : Nat) :
    ∃ t', w.Bare t' ∧ IoOn.outcome (v.nextCluster? cluster) t = (v.tableEntry w cluster, t') := by
  have hlength : 0 < (v.fatType.entrySpan cluster).2 ∧
      (v.fatType.entrySpan cluster).2 ≤ directLimit := by
    cases v.fatType <;> simp [FatType.entrySpan, directLimit]
  obtain ⟨t', ht', hread⟩ :=
    Region.readExactAt_bare v.fat (v.fatType.entrySpan cluster).1 ht hlength.1 hlength.2
  refine ⟨t', ht', ?_⟩
  unfold nextCluster? tableEntry IoOn.outcome
  dsimp only
  rw [IoOn.bind_apply, hread]
  by_cases hbeyond : v.fat.size < (v.fatType.entrySpan cluster).1
  · rw [if_pos hbeyond, if_pos hbeyond]
  · rw [if_neg hbeyond, if_neg hbeyond]
    by_cases hall : (v.fatType.entrySpan cluster).1 + (v.fatType.entrySpan cluster).2 ≤ v.fat.size ∧
        v.fat.start + (v.fatType.entrySpan cluster).1 + (v.fatType.entrySpan cluster).2 ≤ w.length
    · rw [if_pos hall, if_pos hall]
      rfl
    · rw [if_neg hall, if_neg hall]

/-! ## Files along a chain -/

variable (v w)

/-- What there is at an offset of a file where `asked` bytes are read: a byte or nothing, or the
error that keeps it from being known. -/
def outlook (first : Option Nat) (asked : Nat → Nat) (o : Nat) : Except IoError Bool :=
  (v.chainAt w first (o / v.clusterSize)).map fun cluster? =>
    cluster?.any fun cluster =>
      w.yields (v.record.clusterStart cluster + o % v.clusterSize) (asked o)

/-- The bytes of a file where its chain has them. -/
def fileImage (first : Option Nat) (size : Nat) : Image where
  size
  byte o :=
    match v.chainAt w first (o / v.clusterSize) with
    | .ok (some cluster) =>
        w.disk.image.byte (w.firstLba * w.disk.blockSize +
          (v.record.clusterStart cluster + o % v.clusterSize))
    | _ => 0

variable {v w} {first : Option Nat} {asked : Nat → Nat} {o cluster : Nat}

theorem outlook_error {e : IoError} (h : v.chainAt w first (o / v.clusterSize) = .error e) :
    v.outlook w first asked o = .error e := by
  unfold outlook
  rw [h]
  rfl

theorem outlook_none (h : v.chainAt w first (o / v.clusterSize) = .ok none) :
    v.outlook w first asked o = .ok false := by
  unfold outlook
  rw [h]
  rfl

theorem outlook_some (h : v.chainAt w first (o / v.clusterSize) = .ok (some cluster)) :
    v.outlook w first asked o =
      .ok (w.yields (v.record.clusterStart cluster + o % v.clusterSize) (asked o)) := by
  unfold outlook
  rw [h]
  rfl

/-- The bytes in one cluster lie side by side. -/
theorem slice_fileImage {size n : Nat}
    (h : v.chainAt w first (o / v.clusterSize) = .ok (some cluster))
    (hpiece : o % v.clusterSize + n ≤ v.clusterSize) :
    (v.fileImage w first size).slice o n =
      w.slice (v.record.clusterStart cluster + o % v.clusterSize) n := by
  unfold Window.slice Image.slice
  apply List.map_congr_left
  intro i hi
  have hlt : i < n := List.mem_range.mp hi
  obtain ⟨hdiv, hmod⟩ := div_mod_add (show o % v.clusterSize + i < v.clusterSize by omega)
  simp only [fileImage, hdiv, hmod, h]
  congr 1
  omega

end Volume

namespace FileCursor
variable {v : Volume} {first : Option Nat} {size o : Nat} {f : FileCursor}

/-- The place after the first `o` bytes of a file. -/
structure Past (v : Volume) (w : Window) (first : Option Nat) (size o : Nat) (f : FileCursor) :
    Prop where
  start : f.first = first
  recorded : f.size = some size
  offset : f.offset = o
  current : o = 0 ∧ f.current = none ∨
    0 < o ∧ ∃ cluster, f.current = some cluster ∧
      v.chainAt w first ((o - 1) / v.clusterSize) = .ok (some cluster)

/-- The cluster with the next byte, whichever way it is found. -/
theorem cluster?_bare (ht : w.Bare t) (hf : Past v w first size o f) :
    ∃ t', w.Bare t' ∧
      IoOn.outcome (f.cluster? v) t = (v.chainAt w first (o / v.clusterSize), t') := by
  have hpos := v.clusterSize_pos
  have hmod := Nat.mod_lt o hpos
  have hsplit := Nat.div_add_mod' o v.clusterSize
  unfold cluster?
  rw [hf.offset]
  rcases hf.current with ⟨rfl, hnone⟩ | ⟨hsome, cluster, hcurrent, hchain⟩
  · -- the first byte of the file
    rw [if_pos (Nat.zero_mod _), hnone, Nat.zero_div, hf.start]
    exact ⟨t, ht, rfl⟩
  · rw [hcurrent]
    by_cases hedge : o % v.clusterSize = 0
    · -- the first byte of another cluster, to which the table leads from the one before
      obtain ⟨i, hi⟩ : ∃ i, o / v.clusterSize = i + 1 := by
        apply Nat.exists_eq_succ_of_ne_zero
        intro hzero
        rw [hzero] at hsplit
        omega
      have hbefore : (o - 1) / v.clusterSize = i := by
        rw [hi, Nat.succ_mul] at hsplit
        exact div_eq_of_between (by omega) (by omega)
      rw [hbefore] at hchain
      rw [if_pos hedge, hi, Volume.chainAt_succ hchain]
      exact Volume.nextCluster?_bare ht v cluster
    · -- inside a cluster, with the byte before
      have hsame : (o - 1) / v.clusterSize = o / v.clusterSize :=
        div_eq_of_between (by omega) (by omega)
      rw [if_neg hedge, ← hsame, hchain]
      exact ⟨t, ht, rfl⟩

/-- **One read along a chain** does what the outlook says.  Where it brings bytes there is a byte at
each of the offsets they have, also if the read had started there. -/
theorem read_bare (asked : Nat → Nat) {n : Nat} (ht : w.Bare t) (hf : Past v w first size o f)
    (hask : asked o = min (min n (v.clusterSize - o % v.clusterSize)) (size - o)) :
    ∃ t', w.Bare t' ∧
      ((∃ e, v.outlook w first asked o = .error e ∧ read v n (f, t) = .error e (f, t')) ∨
      (v.outlook w first asked o = .ok false ∧ read v n (f, t) = .ok [] (f, t')) ∨
      ∃ k f', read v n (f, t) = .ok ((v.fileImage w first size).slice o (k + 1)) (f', t') ∧
        k < asked o ∧ Past v w first size (o + (k + 1)) f' ∧
        ∀ i ≤ k, 0 < asked (o + i) → v.outlook w first asked (o + i) = .ok true) := by
  obtain ⟨t₁, ht₁, hcluster⟩ := cluster?_bare ht hf
  have hspan : f.span v n = asked o := by
    unfold span
    rw [hf.recorded, hf.offset, hask]
  cases hchain : v.chainAt w first (o / v.clusterSize) with
  | error e =>
    rw [hchain] at hcluster
    refine ⟨t₁, ht₁, .inl ⟨e, Volume.outlook_error hchain, ?_⟩⟩
    simp only [read, IoOn.error_of_outcome hcluster]
  | ok cluster? =>
    rw [hchain] at hcluster
    have hfound := IoOn.ok_of_outcome hcluster
    cases cluster? with
    | none =>
      refine ⟨t₁, ht₁, .inr (.inl ⟨Volume.outlook_none hchain, ?_⟩)⟩
      simp only [read, hfound]
    | some cluster =>
      have hbyte : v.outlook w first asked o =
          .ok (w.yields (v.record.clusterStart cluster + o % v.clusterSize) (asked o)) :=
        Volume.outlook_some hchain
      obtain ⟨t₂, hread, ht₂⟩ := BlockStream.readAt_bare ht₁
        (v.record.clusterStart cluster + o % v.clusterSize) (asked o)
      by_cases hnothing :
          w.span (v.record.clusterStart cluster + o % v.clusterSize) (asked o) = 0
      · have hfalse : v.outlook w first asked o = .ok false := by
          rw [hbyte, Except.ok.injEq, ← Bool.not_eq_true, ← Window.span_pos_iff]
          omega
        rw [hnothing] at hread
        have hnil : w.slice (v.record.clusterStart cluster + o % v.clusterSize) 0 = [] := rfl
        rw [hnil] at hread
        cases hasked : asked o with
        | zero =>
          refine ⟨t₁, ht₁, .inr (.inl ⟨hfalse, ?_⟩)⟩
          simp only [read, hfound, hspan, hasked]
        | succ count =>
          rw [hasked] at hread
          refine ⟨t₂, ht₂, .inr (.inl ⟨hfalse, ?_⟩)⟩
          simp only [read, hfound, hspan, hasked, hf.offset, hread]
      · obtain ⟨k, hk⟩ := Nat.exists_eq_succ_of_ne_zero hnothing
        have hle := w.span_le_asked (v.record.clusterStart cluster + o % v.clusterSize) (asked o)
        have hpos := v.clusterSize_pos
        have hmod := Nat.mod_lt o hpos
        obtain ⟨count, hasked⟩ : ∃ count, asked o = count + 1 := by
          apply Nat.exists_eq_succ_of_ne_zero
          omega
        refine ⟨t₂, ht₂, .inr (.inr ⟨k, f.advance cluster (k + 1), ?_, by omega, ?_, ?_⟩)⟩
        · obtain ⟨b, got, hgot, hlen⟩ := exists_cons_of_length
            (w.length_slice (v.record.clusterStart cluster + o % v.clusterSize) (k + 1))
          rw [Volume.slice_fileImage hchain (by omega)]
          rw [hk, hasked] at hread
          simp only [read, hfound, hspan, hasked, hf.offset, hread, hgot, List.length_cons, hlen]
        · refine ⟨hf.start, hf.recorded, ?_, .inr ⟨by omega, cluster, rfl, ?_⟩⟩
          · show f.offset + (k + 1) = o + (k + 1)
            rw [hf.offset]
          · obtain ⟨hdiv, -⟩ := div_mod_add (show o % v.clusterSize + k < v.clusterSize by omega)
            rw [show o + (k + 1) - 1 = o + k by omega, hdiv, hchain]
        · intro i hi hsome
          obtain ⟨hdiv, hmod'⟩ := div_mod_add (show o % v.clusterSize + i < v.clusterSize by omega)
          rw [← hdiv] at hchain
          rw [Volume.outlook_some hchain, hmod', ← Nat.add_assoc]
          congr 1
          apply Window.yields_of_lt_span (n := asked o) (by omega) hsome
          rintro rfl
          rfl

end FileCursor

/-! ## Files to their ends -/

/-- **Where a file stops**: at the first offset without a byte, or at the length it is taken to
have. -/
structure Stops (outlook : Nat → Except IoError Bool) (total stop : Nat) : Prop where
  le : stop ≤ total
  before : ∀ o < stop, outlook o = .ok true
  here : stop < total → outlook stop ≠ .ok true

theorem Stops.unique {outlook : Nat → Except IoError Bool} {total stop stop' : Nat}
    (h : Stops outlook total stop) (h' : Stops outlook total stop') : stop = stop' := by
  have hle := h.le
  have hle' := h'.le
  rcases Nat.lt_trichotomy stop stop' with hlt | heq | hlt
  · exact absurd (h'.before stop hlt) (h.here (by omega))
  · exact heq
  · exact absurd (h.before stop' hlt) (h'.here (by omega))

namespace FileStream
variable {v : Volume} {first : Option Nat} {size total chunk o : Nat} {f : FileStream}

/-- How many bytes are read at an offset of a file: what is left of the length it is taken to have,
of a chunk, of the cluster and of the recorded size, whatever is least. -/
def asked (v : Volume) (size total chunk o : Nat) : Nat :=
  min (min (min (total - o) (max chunk 1)) (v.clusterSize - o % v.clusterSize)) (size - o)

/-- What is told of a file that stops there. -/
def told (outlook : Nat → Except IoError Bool) (total stop : Nat) (data : Bytes) :
    Except StorageError Bytes :=
  if stop = total then .ok data
  else
    match outlook stop with
    | .ok _ => .ok data
    | .error e => .error (.during "Couldn't read the file" e)

/-- A file handed out up to the byte `o`. -/
structure HandedOut (v : Volume) (w : Window) (first : Option Nat) (size total chunk o : Nat)
    (f : FileStream) : Prop where
  volume : f.volume = v
  cursor : ∃ c, f.cursor = some c ∧ FileCursor.Past v w first size o c
  chunkSize : f.chunkSize = chunk
  totalSize : f.totalSize = total
  bytesRead : f.bytesRead = o

/-- The end of the file. -/
theorem readChunk_end (hf : HandedOut v w first size total chunk total f) :
    ∃ f', readChunk (f, t) = .ok [] (f', t) := by
  obtain ⟨c, hc, -⟩ := hf.cursor
  have hwant : f.want = 0 := by
    unfold want
    rw [hf.totalSize, hf.bytesRead]
    omega
  exact ⟨{ f with cursor := none }, by simp only [readChunk, hc, hwant]⟩

/-- A chunk before the end is what the outlook says. -/
theorem readChunk_bare (ht : w.Bare t) (hf : HandedOut v w first size total chunk o f)
    (ho : o < total) :
    let outlook := v.outlook w first (asked v size total chunk)
    ∃ t', w.Bare t' ∧
      ((∃ e z, outlook o = .error e ∧
        readChunk (f, t) = .error (.during "Couldn't read the file" e) z) ∨
      (∃ z, outlook o = .ok false ∧ readChunk (f, t) = .ok [] z) ∨
      ∃ k f', readChunk (f, t) = .ok ((v.fileImage w first size).slice o (k + 1)) (f', t') ∧
        o + (k + 1) ≤ total ∧ HandedOut v w first size total chunk (o + (k + 1)) f' ∧
        ∀ i ≤ k, outlook (o + i) = .ok true) := by
  intro outlook
  obtain ⟨c, hc, hpast⟩ := hf.cursor
  have hwant : f.want = min (total - o) (max chunk 1) := by
    unfold want
    rw [hf.totalSize, hf.bytesRead, hf.chunkSize]
  obtain ⟨n, hn⟩ : ∃ n, f.want = n + 1 := by
    apply Nat.exists_eq_succ_of_ne_zero
    omega
  obtain ⟨t', ht', hread⟩ :=
    FileCursor.read_bare (asked v size total chunk) (n := n + 1) ht hpast
      (by unfold asked; rw [← hwant, hn])
  refine ⟨t', ht', hread.imp ?_ (.imp ?_ ?_)⟩
  · rintro ⟨e, hbroken, herror⟩
    exact ⟨e, _, hbroken, by simp only [readChunk, hc, hn, hf.volume, herror]; rfl⟩
  · rintro ⟨hnothing, hnil⟩
    exact ⟨_, hnothing, by simp only [readChunk, hc, hn, hf.volume, hnil]; rfl⟩
  · rintro ⟨k, c', hgot, hk, hpast', hbytes⟩
    have hpos := v.clusterSize_pos
    unfold asked at hk
    obtain ⟨b, got, hcons, hlen⟩ :=
      exists_cons_of_length ((v.fileImage w first size).length_slice o (k + 1))
    rw [hcons] at hgot
    refine ⟨k, { f with cursor := some c', bytesRead := f.bytesRead + (b :: got).length }, ?_,
      by omega, ⟨hf.volume, ⟨c', rfl, hpast'⟩, hf.chunkSize, hf.totalSize, ?_⟩, ?_⟩
    · rw [hcons]
      simp only [readChunk, hc, hn, hf.volume, hgot]
    · show f.bytesRead + (b :: got).length = o + (k + 1)
      rw [hf.bytesRead, List.length_cons, hlen]
    · intro i hi
      have hmod := Nat.mod_lt (o + i) hpos
      refine hbytes i hi ?_
      unfold asked
      omega

/-- **Chunks to the end of the file** are its bytes up to where it stops. -/
theorem drain_bare (rounds : Nat) (got : List Bytes) (ht : w.Bare t)
    (hf : HandedOut v w first size total chunk o f) (ho : o ≤ total) (hr : total - o < rounds)
    (hbefore : ∀ i < o, v.outlook w first (asked v size total chunk) i = .ok true) :
    ∃ stop, Stops (v.outlook w first (asked v size total chunk)) total stop ∧ o ≤ stop ∧
      answer (ChunkSource.drain rounds got (f, t)) =
        told (v.outlook w first (asked v size total chunk)) total stop
          (got.reverse.flatten ++ (v.fileImage w first size).slice o (stop - o)) := by
  induction rounds generalizing got o f t with
  | zero => omega
  | succ rounds ih =>
    simp only [ChunkSource.drain, ChunkSource.readChunk]
    by_cases hend : o = total
    · subst hend
      obtain ⟨f', hchunk⟩ := readChunk_end hf (t := t)
      refine ⟨o, ⟨Nat.le_refl o, hbefore, fun hlt => absurd hlt (Nat.lt_irrefl o)⟩,
        Nat.le_refl o, ?_⟩
      rw [hchunk, told, if_pos rfl, Nat.sub_self]
      exact congrArg Except.ok (List.append_nil _).symm
    · obtain ⟨t', ht', ⟨e, z, hbroken, hchunk⟩ | ⟨z, hnothing, hchunk⟩ |
        ⟨k, f', hchunk, hle, hf', hbytes⟩⟩ := readChunk_bare ht hf (by omega)
      · refine ⟨o, ⟨ho, hbefore, fun _ => by rw [hbroken]; exact fun h => by cases h⟩,
          Nat.le_refl o, ?_⟩
        rw [hchunk, told, if_neg hend, hbroken]
        rfl
      · refine ⟨o, ⟨ho, hbefore, fun _ => by rw [hnothing]; exact fun h => by cases h⟩,
          Nat.le_refl o, ?_⟩
        rw [hchunk, told, if_neg hend, hnothing, Nat.sub_self]
        exact congrArg Except.ok (List.append_nil _).symm
      · have hbefore' : ∀ i < o + (k + 1),
            v.outlook w first (asked v size total chunk) i = .ok true := by
          intro i hi
          by_cases hold : i < o
          · exact hbefore i hold
          · obtain ⟨j, rfl⟩ := Nat.exists_eq_add_of_le (Nat.le_of_not_lt hold)
            exact hbytes j (by omega)
        obtain ⟨b, chunk', hcons, -⟩ :=
          exists_cons_of_length ((v.fileImage w first size).length_slice o (k + 1))
        obtain ⟨stop, hstops, hstop, hanswer⟩ :=
          ih ((v.fileImage w first size).slice o (k + 1) :: got) ht' hf' hle (by omega) hbefore'
        refine ⟨stop, hstops, by omega, ?_⟩
        have hjoin : (v.fileImage w first size).slice o (k + 1) ++
            (v.fileImage w first size).slice (o + (k + 1)) (stop - (o + (k + 1))) =
            (v.fileImage w first size).slice o (stop - o) := by
          rw [Image.slice_append]
          congr 1
          omega
        rw [List.reverse_cons, List.flatten_append, List.flatten_singleton, List.append_assoc,
          hjoin] at hanswer
        rw [hchunk, hcons]
        rw [hcons] at hanswer
        exact hanswer

/-- A stream of the file of an entry has handed nothing out yet. -/
theorem handedOut_new (v : Volume) (w : Window) (e : DirEntry) (chunkSize totalSize : Nat) :
    HandedOut v w (e.slot.firstCluster? v.fatType) e.slot.size totalSize chunkSize 0
      { volume := v, cursor := some (v.fileOf e), chunkSize, totalSize } :=
  ⟨rfl, ⟨v.fileOf e, rfl, rfl, rfl, rfl, .inl ⟨rfl, rfl⟩⟩, rfl, rfl, rfl⟩

/-- **The contents of a file** are its bytes up to where it stops. -/
theorem contents_bare (ht : w.Bare t) (v : Volume) (e : DirEntry) (chunkSize totalSize : Nat) :
    let first := e.slot.firstCluster? v.fatType
    let outlook := v.outlook w first (asked v e.slot.size totalSize chunkSize)
    let f : FileStream := { volume := v, cursor := some (v.fileOf e), chunkSize, totalSize }
    ∃ stop, Stops outlook totalSize stop ∧
      answer (f.contents t) =
        told outlook totalSize stop ((v.fileImage w first e.slot.size).slice 0 stop) := by
  intro first outlook f
  obtain ⟨stop, hstops, -, hanswer⟩ := drain_bare (totalSize - 0 + 1) [] ht
    (handedOut_new v w e chunkSize totalSize) (Nat.zero_le _) (Nat.lt_succ_self _)
    fun i hi => absurd hi (Nat.not_lt_zero i)
  refine ⟨stop, hstops, ?_⟩
  rw [answer_contents]
  exact hanswer

end FileStream
end ThumbDrive
