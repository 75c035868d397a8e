import ThumbDrive.Proofs.Chains
import ThumbDrive.Proofs.FirstBlocks

/-! # The slots of a directory

A directory is read slot by slot, and a slot in a dozen pieces.  What comes of that is said here
without any reading: `Directory.placeAt` is where a byte of the directory is, and `Directory.slotAt`
is the slot of a number, or that there is none, or the error that keeps it from being known.
Nothing is assumed of the chain, which may lead anywhere.

A slot lies in one cluster, since clusters are made of slots.  So the place of a slot is the place
of its first byte, and it is read if all of it lies before the end of the window, and of the region
for a root directory of fixed size (`slot?_bare`). -/
namespace ThumbDrive

open BlockStream (Stalls directLimit)
open Pairing (readWithin_nil readWithin_cons readWithin_error)

/-! ## Places -/

namespace Volume

/-- Clusters are made of slots. -/
theorem dvd_clusterSize (v : Volume) : Slot.size ∣ v.clusterSize := by
  have hsector : ∀ n ∈ [512, 1024, 2048, 4096], Slot.size ∣ n := by decide
  exact Nat.dvd_mul_right_of_dvd (hsector _ v.bytesPerSector_mem) v.record.sectorsPerCluster

variable {v : Volume} {w : Window}

/-- Why an entry of the table cannot be read. -/
theorem chainAt_error {first : Option Nat} {i : Nat} {e : IoError}
    (h : v.chainAt w first i = .error e) : e = Region.seekError ∨ e = IoError.shortRead := by
  have hentry : ∀ cluster, v.tableEntry w cluster = .error e →
      e = Region.seekError ∨ e = IoError.shortRead := by
    intro cluster hcluster
    unfold tableEntry at hcluster
    dsimp only at hcluster
    split at hcluster
    · exact .inl (Except.error.inj hcluster).symm
    · split at hcluster
      · cases hcluster
      · exact .inr (Except.error.inj hcluster).symm
  induction i with
  | zero => cases h
  | succ i ih =>
    cases hbefore : v.chainAt w first i with
    | error e' =>
      simp only [chainAt, hbefore] at h
      exact ih (hbefore.trans h)
    | ok cluster? =>
      cases cluster? with
      | none =>
        simp only [chainAt, hbefore] at h
        cases h
      | some cluster =>
        rw [chainAt_succ hbefore] at h
        exact hentry cluster h

end Volume

/-- Two places of one slot are in one cluster. -/
theorem mod_add_le {size o n : Nat} (hsize : Slot.size ∣ size) (hpos : 0 < size)
    (h : o % Slot.size + n ≤ Slot.size) : o % size + n ≤ size := by
  have hsame : o % size % Slot.size = o % Slot.size := Nat.mod_mod_of_dvd o hsize
  have hlt := Nat.mod_lt o hpos
  obtain ⟨m, rfl⟩ := hsize
  have hsplit := Nat.div_add_mod (o % (Slot.size * m)) Slot.size
  have hinside : o % (Slot.size * m) / Slot.size < m := Nat.div_lt_of_lt_mul hlt
  have hle := Nat.mul_le_mul_left Slot.size (Nat.succ_le_of_lt hinside)
  rw [Nat.mul_succ] at hle
  omega

namespace Directory

/-- Where the byte of a directory at an offset is, and how far one can read from there: to the end
of the window, and of the region if the directory is one.  There is none after the end of the
chain. -/
def placeAt (v : Volume) (w : Window) : Directory → Nat → Except IoError (Option (Nat × Nat))
  | .fixed r, o => .ok (some (r.start + o, min w.length (r.start + r.size)))
  | .chain first, o =>
      (v.chainAt w (some first) (o / v.clusterSize)).map fun cluster? =>
        cluster?.map fun cluster => (v.record.clusterStart cluster + o % v.clusterSize, w.length)

variable {v : Volume} {w : Window} {d : Directory} {o first : Nat}

theorem placeAt_broken {e : IoError}
    (h : v.chainAt w (some first) (o / v.clusterSize) = .error e) :
    (chain first).placeAt v w o = .error e := by
  simp only [placeAt, h, Except.map]

theorem placeAt_over (h : v.chainAt w (some first) (o / v.clusterSize) = .ok none) :
    (chain first).placeAt v w o = .ok none := by
  simp only [placeAt, h, Except.map, Option.map_none]

theorem placeAt_cluster {cluster : Nat}
    (h : v.chainAt w (some first) (o / v.clusterSize) = .ok (some cluster)) :
    (chain first).placeAt v w o =
      .ok (some (v.record.clusterStart cluster + o % v.clusterSize, w.length)) := by
  simp only [placeAt, h, Except.map, Option.map_some]

/-- Where a place of a chain is, there is a cluster. -/
theorem cluster_of_placeAt {place stop : Nat}
    (h : (chain first).placeAt v w o = .ok (some (place, stop))) :
    ∃ cluster, v.chainAt w (some first) (o / v.clusterSize) = .ok (some cluster) ∧
      place = v.record.clusterStart cluster + o % v.clusterSize ∧ stop = w.length := by
  cases hchain : v.chainAt w (some first) (o / v.clusterSize) with
  | error e => cases (placeAt_broken hchain).symm.trans h
  | ok cluster? =>
    cases cluster? with
    | none => cases (placeAt_over hchain).symm.trans h
    | some cluster =>
      cases (placeAt_cluster hchain).symm.trans h
      exact ⟨cluster, rfl, rfl, rfl⟩

theorem placeAt_error {e : IoError} (h : d.placeAt v w o = .error e) :
    e = Region.seekError ∨ e = IoError.shortRead := by
  cases d with
  | fixed r => cases h
  | chain first =>
    cases hchain : v.chainAt w (some first) (o / v.clusterSize) with
    | error e' =>
      cases (placeAt_broken hchain).symm.trans h
      exact Volume.chainAt_error hchain
    | ok cluster? =>
      cases cluster? with
      | none => cases (placeAt_over hchain).symm.trans h
      | some cluster => cases (placeAt_cluster hchain).symm.trans h

/-- The bytes of a slot lie side by side. -/
theorem placeAt_add {place stop i : Nat} (h : d.placeAt v w o = .ok (some (place, stop)))
    (hi : o % Slot.size + i < Slot.size) :
    d.placeAt v w (o + i) = .ok (some (place + i, stop)) := by
  cases d with
  | fixed r =>
    cases h
    simp only [placeAt, Nat.add_assoc]
  | chain first =>
    have hinside : o % v.clusterSize + (i + 1) ≤ v.clusterSize :=
      mod_add_le v.dvd_clusterSize v.clusterSize_pos (by omega)
    obtain ⟨hdiv, hmod⟩ := div_mod_add (show o % v.clusterSize + i < v.clusterSize by omega)
    obtain ⟨cluster, hchain, rfl, rfl⟩ := cluster_of_placeAt h
    rw [← hdiv] at hchain
    rw [placeAt_cluster hchain, hmod, Nat.add_assoc]

end Directory

/-! ## Reading in a slot -/

variable {v : Volume} {w : Window} {t : BlockStream Disk}

namespace DirCursor
variable {d : Directory} {o n : Nat} {c : DirCursor}

/-- The cursor after the first `o` bytes of a directory.  What `Past` says of the recorded size of a
file does not matter where none is recorded. -/
def At (v : Volume) (w : Window) : Directory → Nat → DirCursor → Prop
  | .fixed r, o, c => c = .fixed r o
  | .chain first, o, c => ∃ f, c = .chain f ∧ f.size = none ∧
      FileCursor.Past v w (some first) 0 o { f with size := some 0 }

theorem at_start (v : Volume) (w : Window) (d : Directory) : At v w d 0 d.start := by
  cases d with
  | fixed r => rfl
  | chain first => exact ⟨_, rfl, rfl, rfl, rfl, rfl, .inl ⟨rfl, rfl⟩⟩

/-- What a read at a place brings: nothing only if there is nothing, and nothing from behind the
end. -/
theorem span_cases {place stop asked : Nat} (hasked : asked ≤ directLimit)
    (hsome : place < stop → 0 < asked ∧ place < w.length)
    (hends : ∀ k, 0 < k → k ≤ asked → place + k ≤ w.length → place + k ≤ stop) :
    (w.span place asked = 0 → stop ≤ place) ∧
      (0 < w.span place asked → place + w.span place asked ≤ stop) := by
  have hyields : 0 < w.span place asked ↔ w.yields place asked = true := Window.span_pos_iff
  rw [Window.yields_iff] at hyields
  have hfree : ¬ Stalls w.disk.blockSize w.length place asked :=
    BlockStream.not_stalls (.inr hasked)
  have hle := w.span_le_asked place asked
  have hleft := w.span_le_left place asked
  constructor
  · intro hzero
    refine Nat.le_of_not_lt fun hlt => ?_
    obtain ⟨hpos, hin⟩ := hsome hlt
    have hspan := hyields.mpr ⟨hpos, hin, hfree⟩
    omega
  · intro hspan
    obtain ⟨-, hin, -⟩ := hyields.mp hspan
    exact hends _ hspan hle (by omega)

/-- **One read in a slot.** -/
theorem read_bare (ht : w.Bare t) (hc : At v w d o c) (hn : 0 < n)
    (hfit : o % Slot.size + n ≤ Slot.size) :
    ∃ t', w.Bare t' ∧
      ((∃ e, d.placeAt v w o = .error e ∧ read v n (c, t) = .error e (c, t')) ∨
      (d.placeAt v w o = .ok none ∧ read v n (c, t) = .ok [] (c, t')) ∨
      ∃ place stop k c', d.placeAt v w o = .ok (some (place, stop)) ∧
        read v n (c, t) = .ok (w.slice place k) (c', t') ∧ At v w d (o + k) c' ∧ k ≤ n ∧
        (k = 0 → stop ≤ place) ∧ (0 < k → place + k ≤ stop)) := by
  have hsmall : n ≤ directLimit := by
    have hslot : Slot.size ≤ directLimit := by decide
    omega
  cases d with
  | fixed r =>
    obtain rfl : c = .fixed r o := hc
    obtain ⟨t', hread, ht'⟩ := BlockStream.readAt_bare ht (r.start + o) (min (r.size - o) n)
    have hspan := w.span_le_asked (r.start + o) (min (r.size - o) n)
    have hcases : (w.span (r.start + o) (min (r.size - o) n) = 0 →
          min w.length (r.start + r.size) ≤ r.start + o) ∧
        (0 < w.span (r.start + o) (min (r.size - o) n) →
          r.start + o + w.span (r.start + o) (min (r.size - o) n) ≤
            min w.length (r.start + r.size)) :=
      span_cases (by omega) (by omega) (by omega)
    refine ⟨t', ht', .inr (.inr ⟨_, _, w.span (r.start + o) (min (r.size - o) n), _, rfl, ?_, rfl,
      by omega, hcases⟩)⟩
    simp only [read, Region.read_eq, hread, Window.length_slice]
  | chain first =>
    obtain ⟨f, rfl, hsize, hpast⟩ := hc
    have hoffset : f.offset = o := hpast.offset
    obtain ⟨t₁, ht₁, hcluster⟩ := FileCursor.cluster?_bare ht hpast
    have hfound : IoOn.outcome (f.cluster? v) t =
        (v.chainAt w (some first) (o / v.clusterSize), t₁) := hcluster
    cases hchain : v.chainAt w (some first) (o / v.clusterSize) with
    | error e =>
      rw [hchain] at hfound
      refine ⟨t₁, ht₁, .inl ⟨e, Directory.placeAt_broken hchain, ?_⟩⟩
      simp only [read, FileCursor.read, IoOn.error_of_outcome hfound]
    | ok cluster? =>
      rw [hchain] at hfound
      have hok := IoOn.ok_of_outcome hfound
      cases cluster? with
      | none =>
        refine ⟨t₁, ht₁, .inr (.inl ⟨Directory.placeAt_over hchain, ?_⟩)⟩
        simp only [read, FileCursor.read, hok]
      | some cluster =>
        have hplace := Directory.placeAt_cluster hchain
        have hinside : o % v.clusterSize + n ≤ v.clusterSize :=
          mod_add_le v.dvd_clusterSize v.clusterSize_pos hfit
        obtain ⟨m, rfl⟩ : ∃ m, n = m + 1 := ⟨n - 1, by omega⟩
        have hspan : f.span v (m + 1) = m + 1 := by
          unfold FileCursor.span
          rw [hsize, hoffset]
          exact Nat.min_eq_left (by omega)
        obtain ⟨t₂, hread, ht₂⟩ := BlockStream.readAt_bare ht₁
          (v.record.clusterStart cluster + o % v.clusterSize) (m + 1)
        have hle := w.span_le_asked (v.record.clusterStart cluster + o % v.clusterSize) (m + 1)
        have hcases := span_cases hsmall
          (fun hlt : v.record.clusterStart cluster + o % v.clusterSize < w.length => ⟨hn, hlt⟩)
          (fun _ _ _ h => h)
        generalize w.span (v.record.clusterStart cluster + o % v.clusterSize) (m + 1) = k at *
        cases k with
        | zero =>
          have hnil : w.slice (v.record.clusterStart cluster + o % v.clusterSize) 0 = [] := rfl
          rw [hnil] at hread
          refine ⟨t₂, ht₂, .inr (.inr ⟨_, _, 0, .chain f, hplace, ?_, ⟨f, rfl, hsize, hpast⟩,
            by omega, hcases⟩)⟩
          simp only [read, FileCursor.read, hok, hspan, hoffset, hread, hnil]
        | succ k =>
          obtain ⟨b, got, hgot, hlen⟩ := exists_cons_of_length
            (w.length_slice (v.record.clusterStart cluster + o % v.clusterSize) (k + 1))
          rw [hgot] at hread
          refine ⟨t₂, ht₂, .inr (.inr ⟨_, _, k + 1, .chain (f.advance cluster (k + 1)), hplace, ?_,
            ⟨_, rfl, hsize, hpast.start, rfl, ?_, .inr ⟨by omega, cluster, rfl, ?_⟩⟩, hle, hcases⟩)⟩
          · rw [hgot]
            simp only [read, FileCursor.read, hok, hspan, hoffset, hread, List.length_cons, hlen]
          · show f.offset + (k + 1) = o + (k + 1)
            rw [hoffset]
          · obtain ⟨hdiv, -⟩ := div_mod_add (show o % v.clusterSize + k < v.clusterSize by omega)
            rw [show o + (k + 1) - 1 = o + k by omega, hdiv, hchain]

section
variable {i x base stop : Nat}

/-- **Filling a buffer in a slot**, from its byte `x` on. -/
theorem readWithin_bare (rounds : Nat) (ht : w.Bare t) (hc : At v w d (Slot.size * i + x) c)
    (hbase : d.placeAt v w (Slot.size * i) = .ok (some (base, stop))) (hle : base + x ≤ stop)
    (hn : n ≤ rounds) (hfit : x + n ≤ Slot.size) :
    ∃ z, w.Bare z.2 ∧
      (base + x + n ≤ stop → readWithin (read v) rounds n (c, t) = .ok (w.slice (base + x) n) z ∧
        At v w d (Slot.size * i + (x + n)) z.1) ∧
      (stop < base + x + n → readWithin (read v) rounds n (c, t) = .error IoError.shortRead z) := by
  induction rounds generalizing n x c t with
  | zero =>
    obtain rfl : n = 0 := by omega
    exact ⟨(c, t), ht, fun _ => ⟨rfl, hc⟩, fun h => by omega⟩
  | succ rounds ih =>
    cases n with
    | zero => exact ⟨(c, t), ht, fun _ => ⟨rfl, hc⟩, fun h => by omega⟩
    | succ n =>
      have hstart : Slot.size * i % Slot.size = 0 := Nat.mul_mod_right _ _
      have hplace : d.placeAt v w (Slot.size * i + x) = .ok (some (base + x, stop)) :=
        Directory.placeAt_add hbase (by omega)
      obtain ⟨-, hmod⟩ := div_mod_add (show Slot.size * i % Slot.size + x < Slot.size by omega)
      obtain ⟨t₁, ht₁, ⟨e, herror, -⟩ | ⟨hnone, -⟩ |
        ⟨place, stop', k, c₁, hplace', hread, hc₁, hk, hend, hin⟩⟩ :=
          read_bare ht hc (Nat.succ_pos n) (by omega)
      · cases hplace.symm.trans herror
      · cases hplace.symm.trans hnone
      · cases hplace.symm.trans hplace'
        cases k with
        | zero =>
          have hover := hend rfl
          have hnil : w.slice (base + x) 0 = [] := rfl
          rw [hnil] at hread
          exact ⟨(c₁, t₁), ht₁, fun h => by omega, fun _ => readWithin_nil hread⟩
        | succ k =>
          have hmore := hin (Nat.succ_pos k)
          obtain ⟨b, got, hgot, hlen⟩ := exists_cons_of_length (w.length_slice (base + x) (k + 1))
          rw [hgot] at hread
          rw [Nat.add_assoc] at hc₁ hmore
          obtain ⟨z, hz, hfull, hshort⟩ := ih (n := n - k) ht₁ hc₁ hmore (by omega) (by omega)
          refine ⟨z, hz, ?_, ?_⟩
          · intro hfits
            obtain ⟨hrest, hz'⟩ := hfull (by omega)
            rw [readWithin_cons hread, hlen, hrest]
            refine ⟨?_, by rw [show x + (n + 1) = x + (k + 1) + (n - k) by omega]; exact hz'⟩
            dsimp only
            rw [← hgot, ← Nat.add_assoc base, w.slice_append]
            congr 2
            omega
          · intro hcut
            rw [readWithin_cons hread, hlen, hshort (by omega)]

/-- Pieces that are filled one after the other lie side by side. -/
theorem readPieces_bare (ht : w.Bare t) (hc : At v w d (Slot.size * i + x) c)
    (hbase : d.placeAt v w (Slot.size * i) = .ok (some (base, stop))) (hle : base + x ≤ stop)
    (lengths : List Nat) {total : Nat} (htotal : lengths.foldr (· + ·) 0 = total)
    (hfit : x + total ≤ Slot.size) :
    ∃ z, w.Bare z.2 ∧
      (base + x + total ≤ stop →
        readPieces (read v) lengths (c, t) = .ok (w.slice (base + x) total) z ∧
          At v w d (Slot.size * i + (x + total)) z.1) ∧
      (stop < base + x + total →
        readPieces (read v) lengths (c, t) = .error IoError.shortRead z) := by
  subst htotal
  unfold readPieces
  rw [← List.nil_append (w.slice (base + x) _)]
  generalize ([] : Bytes) = got
  induction lengths generalizing got x c t with
  | nil =>
    have hnil : w.slice (base + x) ([].foldr (· + ·) 0) = [] := rfl
    refine ⟨(c, t), ht, fun _ => ⟨?_, hc⟩, fun h => absurd h (by simpa using hle)⟩
    rw [hnil, List.append_nil]
    rfl
  | cons n lengths ih =>
    rw [List.foldlM_cons]
    rw [List.foldr_cons] at hfit ⊢
    obtain ⟨z, hz, hfull, hshort⟩ := readWithin_bare (n + interruptLimit) (n := n) ht hc hbase hle
      (Nat.le_add_right n _) (by omega)
    by_cases hfits : base + x + n ≤ stop
    · obtain ⟨hpiece, hz'⟩ := hfull hfits
      have hfirst : (readExact (read v) n >>= fun piece => pure (got ++ piece)) (c, t) =
          .ok (got ++ w.slice (base + x) n) z := by
        rw [IoOn.bind_ok (show readExact (read v) n (c, t) = _ from hpiece)]
        rfl
      rw [Nat.add_assoc] at hfits
      obtain ⟨y, hy, hfull', hshort'⟩ := ih hz hz' hfits (by omega) (got ++ w.slice (base + x) n)
      rw [IoOn.bind_ok hfirst]
      refine ⟨y, hy, ?_, ?_⟩
      · intro hall
        obtain ⟨hjoined, hy'⟩ := hfull' (by omega)
        rw [List.append_assoc, ← Nat.add_assoc base, w.slice_append] at hjoined
        exact ⟨hjoined, by rw [← Nat.add_assoc x]; exact hy'⟩
      · intro hcut
        exact hshort' (by omega)
    · refine ⟨z, hz, fun h => absurd h (by omega), fun _ => ?_⟩
      exact IoOn.bind_error (IoOn.bind_error (hshort (by omega)))

end

end DirCursor

/-! ## Slots -/

/-- The slot at a place, where one can read up to `stop`.  A name that is cut off is no slot, a slot
that is cut off behind its name is an error, and a slot that starts with a zero is the end. -/
def Window.slotWithin (w : Window) (place stop : Nat) : Except IoError (Option Slot) :=
  let slot := Slot.ofBytes (w.slice place Slot.size)
  if stop < place + 11 then .ok none
  else if stop < place + Slot.size then .error IoError.shortRead
  else .ok (if slot.mark = 0 then none else some slot)

/-- **The slot of a number in a directory.**  An entry of the table that is cut off is taken for the
end of the directory. -/
def Directory.slotAt (v : Volume) (w : Window) (d : Directory) (i : Nat) :
    Except IoError (Option Slot) :=
  match d.placeAt v w (Slot.size * i) with
  | .ok (some (place, stop)) => w.slotWithin place stop
  | .ok none => .ok none
  | .error e => if e.kind = .unexpectedEof then .ok none else .error e

theorem Window.slotWithin_some {place stop : Nat} {s : Slot}
    (h : w.slotWithin place stop = .ok (some s)) : place + Slot.size ≤ stop := by
  unfold slotWithin at h
  dsimp only at h
  split at h
  · cases h
  · split at h
    · cases h
    · omega

/-- Where there is a slot, there is a place for it. -/
theorem Directory.place_of_slotAt {d : Directory} {i : Nat} {s : Slot}
    (h : d.slotAt v w i = .ok (some s)) :
    ∃ place stop, d.placeAt v w (Slot.size * i) = .ok (some (place, stop)) ∧
      place + Slot.size ≤ stop := by
  unfold slotAt at h
  split at h
  · next place stop hplace => exact ⟨place, stop, hplace, Window.slotWithin_some h⟩
  · cases h
  · split at h <;> cases h

namespace DirCursor
variable {d : Directory} {i : Nat} {c : DirCursor}

/-- The rest of a slot whose name has been read. -/
theorem rest_bare {base stop : Nat} (ht : w.Bare t) (hc : At v w d (Slot.size * i + 11) c)
    (hbase : d.placeAt v w (Slot.size * i) = .ok (some (base, stop))) (hle : base + 11 ≤ stop) :
    ∃ z, w.Bare z.2 ∧
      IoOn.outcome (slot?.rest v (w.slice base 11)) (c, t) = (w.slotWithin base stop, z) ∧
      (base + Slot.size ≤ stop → At v w d (Slot.size * (i + 1)) z.1) := by
  have hslot : Slot.size = 32 := rfl
  obtain ⟨z₁, hz₁, hfull₁, hshort₁⟩ := readWithin_bare (1 + interruptLimit) (n := 1) ht hc hbase hle
    (Nat.le_add_right 1 _) (by omega)
  unfold Window.slotWithin slot?.rest
  dsimp only
  rw [if_neg (by omega)]
  by_cases hmore : base + 12 ≤ stop
  · obtain ⟨hattributes, hc₁⟩ := hfull₁ (by omega)
    have hread : readExact (read v) 1 (c, t) = .ok (w.slice (base + 11) 1) z₁ := hattributes
    have hfields : ∀ isLong, (Slot.fields isLong).foldr (· + ·) 0 = 20 := by decide
    obtain ⟨z₂, hz₂, hfull₂, hshort₂⟩ := readPieces_bare hz₁ hc₁ hbase (by omega)
      (Slot.fields (Slot.isLongMark (Bytes.byteAt (w.slice (base + 11) 1) 0))) (hfields _)
      (by omega)
    by_cases hall : base + Slot.size ≤ stop
    · obtain ⟨hpieces, hc₂⟩ := hfull₂ (by omega)
      have hbytes : w.slice base 11 ++ w.slice (base + 11) 1 ++ w.slice (base + 12) 20 =
          w.slice base Slot.size := by
        rw [w.slice_append, w.slice_append]
        rfl
      refine ⟨z₂, hz₂, ?_, fun _ => by rw [Nat.mul_succ]; exact hc₂⟩
      rw [if_neg (by omega)]
      refine IoOn.outcome_ok ?_
      rw [IoOn.bind_ok hread, IoOn.bind_ok hpieces, ← hbytes]
      rfl
    · refine ⟨z₂, hz₂, ?_, fun h => absurd h hall⟩
      rw [if_pos (by omega)]
      refine IoOn.outcome_error ?_
      rw [IoOn.bind_ok hread, IoOn.bind_error (hshort₂ (by omega))]
  · refine ⟨z₁, hz₁, ?_, fun h => by omega⟩
    rw [if_pos (by omega)]
    exact IoOn.outcome_error (IoOn.bind_error (hshort₁ (by omega)))

/-- Where the name cannot be read. -/
theorem slot?_nameless {e : IoError} {z : DirCursor × BlockStream Disk}
    (h : readExact (read v) 11 (c, t) = .error e z) :
    IoOn.outcome (slot? v) (c, t) =
      (if e.kind = .unexpectedEof then .ok none else .error e, z) := by
  unfold IoOn.outcome slot?
  rw [h]
  dsimp only
  by_cases hend : e.kind = .unexpectedEof
  · rw [if_pos hend, if_pos hend]
  · rw [if_neg hend, if_neg hend]

theorem slot?_named {name : Bytes} {z : DirCursor × BlockStream Disk}
    (h : readExact (read v) 11 (c, t) = .ok name z) :
    IoOn.outcome (slot? v) (c, t) = IoOn.outcome (slot?.rest v name) z := by
  unfold IoOn.outcome slot?
  rw [h]

/-- **The next slot is read as it is**, and the cursor moves past it. -/
theorem slot?_bare (ht : w.Bare t) (hc : At v w d (Slot.size * i) c) :
    ∃ z, w.Bare z.2 ∧ IoOn.outcome (slot? v) (c, t) = (d.slotAt v w i, z) ∧
      ∀ s, d.slotAt v w i = .ok (some s) → At v w d (Slot.size * (i + 1)) z.1 := by
  have hslot : Slot.size = 32 := rfl
  have hstart : Slot.size * i % Slot.size = 0 := Nat.mul_mod_right _ _
  have hrounds : 11 + interruptLimit = 10 + interruptLimit + 1 := rfl
  obtain ⟨t₁, ht₁, ⟨e, hplace, hread⟩ | ⟨hplace, hread⟩ |
    ⟨base, stop, k, c₁, hplace, hread, -, -, -, hin⟩⟩ :=
      read_bare (n := 10 + 1) ht hc (by omega) (by omega)
  · -- the entry of the table cannot be read
    have hname : readExact (read v) 11 (c, t) = .error e (c, t₁) := by
      rw [readExact, hrounds, readWithin_error hread, if_neg]
      rcases Directory.placeAt_error hplace with rfl | rfl <;> decide
    have hnone : d.slotAt v w i = if e.kind = .unexpectedEof then .ok none else .error e := by
      unfold Directory.slotAt
      rw [hplace]
    refine ⟨(c, t₁), ht₁, by rw [hnone]; exact slot?_nameless hname, fun s hs => ?_⟩
    rw [hnone] at hs
    split at hs <;> cases hs
  · -- the chain is over
    have hname : readExact (read v) 11 (c, t) = .error IoError.shortRead (c, t₁) := by
      rw [readExact, hrounds, readWithin_nil hread]
    have hnone : d.slotAt v w i = .ok none := by
      unfold Directory.slotAt
      rw [hplace]
    refine ⟨(c, t₁), ht₁, by rw [hnone]; exact slot?_nameless hname, fun s hs => ?_⟩
    rw [hnone] at hs
    cases hs
  · have hsome : d.slotAt v w i = w.slotWithin base stop := by
      unfold Directory.slotAt
      rw [hplace]
    rw [hsome]
    by_cases hname : base + 11 ≤ stop
    · obtain ⟨z, hz, hfull, -⟩ := readWithin_bare (11 + interruptLimit) (x := 0) (n := 11) ht hc
        hplace (by omega) (Nat.le_add_right 11 _) (by omega)
      obtain ⟨hread, hz₁⟩ := hfull hname
      obtain ⟨z', hz', hrest, hnext⟩ := rest_bare hz hz₁ hplace hname
      refine ⟨z', hz', ?_, fun s hs => hnext (Window.slotWithin_some hs)⟩
      rw [slot?_named hread]
      exact hrest
    · -- the name is cut off, or lies behind the end with the rest
      have hcut : ∃ z, w.Bare z.2 ∧
          readExact (read v) 11 (c, t) = .error IoError.shortRead z := by
        by_cases hempty : base ≤ stop
        · obtain ⟨z, hz, -, hshort⟩ := readWithin_bare (11 + interruptLimit) (x := 0) (n := 11) ht
            hc hplace hempty (Nat.le_add_right 11 _) (by omega)
          exact ⟨z, hz, hshort (by omega)⟩
        · obtain rfl : k = 0 := Nat.eq_zero_of_not_pos fun hpos => by
            have := hin hpos
            omega
          refine ⟨(c₁, t₁), ht₁, ?_⟩
          rw [readExact, hrounds]
          exact readWithin_nil hread
      obtain ⟨z, hz, hread⟩ := hcut
      have hnone : w.slotWithin base stop = .ok none := by
        unfold Window.slotWithin
        exact if_pos (by omega)
      rw [hnone]
      refine ⟨z, hz, slot?_nameless hread, fun s hs => ?_⟩
      cases hs

end DirCursor
end ThumbDrive
