import ThumbDrive.Proofs.Chains

/-! # Files as the allocation table records them

What is in a file is said here without any reading: the table leads from cluster to cluster
(`Volume.link?`), the clusters have their bytes in the window, and a file has as many bytes of them
as its entry records (`Volume.fileBytes`).

A file that is all there (`Laid`) has a byte at every offset below its recorded size, so it stops
there and nowhere before (`FileStream.contents_disk`).  The table is not consulted beyond the
cluster with the last byte.

All of that is about the bare disk.  A session on another device with the same contents gives the
same answer if no read fails. -/
namespace ThumbDrive

/-! ## Equal pieces in one string -/

section Pieces
variable {α : Type} {f : α → Bytes} {size : Nat}

theorem length_flatMap_const (hf : ∀ a, (f a).length = size) (xs : List α) :
    (xs.flatMap f).length = xs.length * size := by
  induction xs with
  | nil => simp
  | cons x xs ih =>
    rw [List.flatMap_cons, List.length_append, hf, ih, List.length_cons, Nat.succ_mul, Nat.add_comm]

/-- Whole pieces are left out. -/
theorem drop_flatMap_const (hf : ∀ a, (f a).length = size) (xs : List α) (i : Nat) :
    (xs.flatMap f).drop (i * size) = (xs.drop i).flatMap f := by
  induction i generalizing xs with
  | zero => simp
  | succ i ih =>
    cases xs with
    | nil => simp
    | cons x xs =>
      rw [List.flatMap_cons, Nat.succ_mul, Nat.add_comm, ← List.drop_drop,
        List.drop_left' (hf x), ih, List.drop_succ_cons]

/-- Bytes that lie in one piece. -/
theorem slice_flatMap (hf : ∀ a, (f a).length = size) {xs : List α} {o k : Nat} {x : α}
    (hx : xs[o / size]? = some x) (hk : o % size + k ≤ size) :
    Bytes.slice (xs.flatMap f) o k = Bytes.slice (f x) (o % size) k := by
  have hsplit := Nat.div_add_mod' o size
  have hdrop : (xs.flatMap f).drop o = ((xs.drop (o / size)).flatMap f).drop (o % size) := by
    rw [← drop_flatMap_const hf, List.drop_drop, hsplit]
  obtain ⟨hlt, hget⟩ := List.getElem?_eq_some_iff.mp hx
  unfold Bytes.slice
  rw [hdrop, List.drop_eq_getElem_cons hlt, hget, List.flatMap_cons, List.drop_append,
    List.take_append]
  have hfits : k - ((f x).drop (o % size)).length = 0 := by
    rw [List.length_drop, hf]
    omega
  rw [hfits, List.take_zero, List.append_nil]

end Pieces

/-! ## What the table records -/

namespace Volume
variable (v : Volume) (w : Window)

/-- The cluster the table leads to from `cluster`, if the table has an entry for it. -/
def link? (cluster : Nat) : Option Nat :=
  let (offset, length) := v.fatType.entrySpan cluster
  if offset + length ≤ v.fat.size ∧ v.fat.start + offset + length ≤ w.length then
    v.fatType.next? cluster (Bytes.ofLittle (w.slice (v.fat.start + offset) length))
  else none

/-- The first `count` clusters of a chain, or all if it has less. -/
def clusters : (count : Nat) → (first : Option Nat) → List Nat
  | 0, _ => []
  | _ + 1, none => []
  | count + 1, some cluster => cluster :: clusters count (v.link? w cluster)

/-- The bytes of a cluster. -/
def clusterBytes (cluster : Nat) : Bytes := w.slice (v.record.clusterStart cluster) v.clusterSize

/-- How many clusters it takes for so many bytes. -/
def clustersFor (size : Nat) : Nat := (size + v.clusterSize - 1) / v.clusterSize

/-- The first `size` bytes in the clusters of a chain. -/
def fileBytes (first : Option Nat) (size : Nat) : Bytes :=
  ((v.clusters w (v.clustersFor size) first).flatMap (v.clusterBytes w)).take size

theorem length_clusterBytes (cluster : Nat) : (v.clusterBytes w cluster).length = v.clusterSize :=
  w.length_slice _ _

variable {v w}

theorem clusters_head {count : Nat} {first : Option Nat}
    (h : 0 < (v.clusters w count first).length) :
    (v.clusters w count first)[0]? = first := by
  cases count with
  | zero => simp [clusters] at h
  | succ count =>
    cases first with
    | none => simp [clusters] at h
    | some cluster => rfl

/-- Each cluster of a chain is where the table leads to from the one before it. -/
theorem clusters_next {count i cluster : Nat} {first : Option Nat}
    (hc : (v.clusters w count first)[i]? = some cluster)
    (h : i + 1 < (v.clusters w count first).length) :
    (v.clusters w count first)[i + 1]? = v.link? w cluster := by
  induction count generalizing first i with
  | zero => simp [clusters] at h
  | succ count ih =>
    cases first with
    | none => simp [clusters] at h
    | some c =>
      rw [clusters, List.length_cons] at h
      rw [clusters] at hc ⊢
      cases i with
      | zero =>
        obtain rfl : c = cluster := by simpa using hc
        exact clusters_head (by omega)
      | succ i => exact ih (by simpa using hc) (by omega)

/-- Bytes of a file that lie in one cluster. -/
theorem slice_fileBytes {first : Option Nat} {size o n cluster : Nat}
    (hc : (v.clusters w (v.clustersFor size) first)[o / v.clusterSize]? = some cluster)
    (hpiece : o % v.clusterSize + n ≤ v.clusterSize) (hsize : o + n ≤ size) :
    Bytes.slice (v.fileBytes w first size) o n =
      w.slice (v.record.clusterStart cluster + o % v.clusterSize) n := by
  have htake : Bytes.slice (v.fileBytes w first size) o n =
      Bytes.slice ((v.clusters w (v.clustersFor size) first).flatMap (v.clusterBytes w)) o n := by
    unfold fileBytes Bytes.slice
    rw [List.drop_take, List.take_take, Nat.min_eq_left (by omega)]
  rw [htake, slice_flatMap (v.length_clusterBytes w) hc hpiece]
  unfold clusterBytes Window.slice
  rw [Image.slice_slice _ hpiece, Nat.add_assoc]

theorem le_clustersFor (v : Volume) (size : Nat) : size ≤ v.clustersFor size * v.clusterSize := by
  have hpos := v.clusterSize_pos
  have hdiv := Nat.div_add_mod' (size + v.clusterSize - 1) v.clusterSize
  have hmod := Nat.mod_lt (size + v.clusterSize - 1) hpos
  unfold clustersFor
  omega

/-- Where the table leads, it can be read. -/
theorem tableEntry_of_link? {cluster next : Nat} (h : v.link? w cluster = some next) :
    v.tableEntry w cluster = .ok (some next) := by
  unfold link? at h
  unfold tableEntry
  dsimp only at h ⊢
  split at h
  · next hentry => rw [if_neg (by omega), if_pos hentry, h]
  · cases h

theorem chainAt_of_clusters {count i cluster : Nat} {first : Option Nat}
    (hc : (v.clusters w count first)[i]? = some cluster) :
    v.chainAt w first i = .ok (some cluster) := by
  induction i generalizing cluster with
  | zero =>
    obtain ⟨hlt, -⟩ := List.getElem?_eq_some_iff.mp hc
    rw [clusters_head hlt] at hc
    rw [chainAt, hc]
  | succ i ih =>
    obtain ⟨hlt, -⟩ := List.getElem?_eq_some_iff.mp hc
    have hbefore : (v.clusters w count first)[i]? = some ((v.clusters w count first)[i]) :=
      List.getElem?_eq_getElem (by omega)
    have hlink := clusters_next hbefore hlt
    rw [chainAt_succ (ih hbefore)]
    exact tableEntry_of_link? (hlink.symm.trans hc)

end Volume

/-! ## Files that are all there -/

/-- **A file that is all there**: its chain has the clusters it takes, and they are inside the
window.  The blocks of the disk are not too large. -/
structure Laid (v : Volume) (w : Window) (first : Option Nat) (size : Nat) : Prop where
  small : w.disk.blockSize ≤ BlockStream.directLimit
  enough : (v.clusters w (v.clustersFor size) first).length = v.clustersFor size
  inside : ∀ cluster ∈ v.clusters w (v.clustersFor size) first,
    v.record.clusterStart cluster + v.clusterSize ≤ w.length

namespace Laid
variable {v : Volume} {w : Window} {first : Option Nat} {size o : Nat}

/-- Every byte has its cluster. -/
theorem cluster (hl : Laid v w first size) (ho : o < size) :
    ∃ cluster, (v.clusters w (v.clustersFor size) first)[o / v.clusterSize]? = some cluster := by
  have hlt : o / v.clusterSize < (v.clusters w (v.clustersFor size) first).length := by
    rw [hl.enough]
    apply Nat.div_lt_of_lt_mul
    rw [Nat.mul_comm]
    exact Nat.lt_of_lt_of_le ho (v.le_clustersFor size)
  exact ⟨_, List.getElem?_eq_getElem hlt⟩

theorem outlook (hl : Laid v w first size) (ho : o < size) {asked : Nat → Nat}
    (hask : 0 < asked o) : v.outlook w first asked o = .ok true := by
  obtain ⟨cluster, hc⟩ := hl.cluster ho
  have hinside := hl.inside cluster (List.mem_of_getElem? hc)
  have hmod := Nat.mod_lt o v.clusterSize_pos
  rw [Volume.outlook_some (Volume.chainAt_of_clusters hc)]
  congr 1
  exact Window.yields_iff.mpr ⟨hask, by omega, BlockStream.not_stalls (.inl hl.small)⟩

theorem length_fileBytes (hl : Laid v w first size) : (v.fileBytes w first size).length = size := by
  have hlen : ((v.clusters w (v.clustersFor size) first).flatMap (v.clusterBytes w)).length =
      v.clustersFor size * v.clusterSize := by
    rw [length_flatMap_const (v.length_clusterBytes w), hl.enough]
  have hle := v.le_clustersFor size
  unfold Volume.fileBytes
  rw [List.length_take, hlen]
  omega

/-- Byte by byte, the clusters have what the file has. -/
theorem slice_fileImage (hl : Laid v w first size) :
    (v.fileImage w first size).slice 0 size = v.fileBytes w first size := by
  apply Bytes.ext_slice
  · rw [Image.length_slice, hl.length_fileBytes]
  · intro o ho
    rw [Image.length_slice] at ho
    obtain ⟨cluster, hc⟩ := hl.cluster ho
    have hmod := Nat.mod_lt o v.clusterSize_pos
    rw [Image.slice_slice _ (by omega), Nat.zero_add,
      Volume.slice_fileImage (Volume.chainAt_of_clusters hc) (by omega),
      Volume.slice_fileBytes hc (by omega) (by omega)]

end Laid

/-- The contents of a file that is all there. -/
theorem FileStream.contents_disk {v : Volume} {w : Window} {t : BlockStream Disk} {e : DirEntry}
    (hl : Laid v w (e.slot.firstCluster? v.fatType) e.slot.size) (ht : w.Bare t)
    (chunkSize : Nat) :
    ∃ t', (Session.fileStream v chunkSize e).contents t =
      .ok (v.fileBytes w (e.slot.firstCluster? v.fatType) e.slot.size) t' := by
  obtain ⟨stop, hstops, hanswer⟩ := contents_bare ht v e chunkSize e.slot.size
  have hall : Stops (v.outlook w (e.slot.firstCluster? v.fatType)
      (asked v e.slot.size e.slot.size chunkSize)) e.slot.size e.slot.size := by
    refine ⟨Nat.le_refl _, fun o ho => ?_, fun hlt => absurd hlt (Nat.lt_irrefl _)⟩
    have hmod := Nat.mod_lt o v.clusterSize_pos
    refine hl.outlook ho ?_
    unfold asked
    omega
  rw [hstops.unique hall, told, if_pos rfl, hl.slice_fileImage] at hanswer
  exact Session.ok_of_answer hanswer

namespace Session
variable {δ : Type} [BlockDevice δ] {Sound : δ → Prop} {failures : δ → List IoError} {w : Window}

/-- A path that leads to a file on one of two sessions that are alike leads to it on the other. -/
theorem resolve_alike (hd : FaultLog w.disk Sound failures) {v : Volume} {x x' : BlockStream δ}
    {y : BlockStream Disk} (hxy : (w.streams Sound failures).Rel x y) {path : String} {node : Node}
    (h : v.resolve path x = .ok (some node) x') :
    ∃ y', v.resolve path y = .ok (some node) y' ∧ w.Bare y' := by
  rcases Volume.follows_resolve hd v path x y hxy with hstep | hcut
  · rcases hstep.inv
      with ⟨a, s', y', es, hx, hy, hrel, -⟩ | ⟨e, s', y', es, hx, -⟩ | ⟨e, s', es, hx, -⟩
    · cases hx.symm.trans h
      exact ⟨y', hy, hrel.2⟩
    · cases hx.symm.trans h
    · cases hx.symm.trans h
  · obtain ⟨found, s', es, hx, -, -, -, rfl⟩ := hcut.ended
    cases hx.symm.trans h

/-- What is told of the contents of a file that was found is the answer. -/
theorem ask_read_answer {s : Session δ} {v : Volume} {x x' : BlockStream δ} {path : String}
    {e : DirEntry} (hs : s.state = .mounted v x)
    (hresolve : v.resolve path x = .ok (some (.file e)) x') :
    (s.ask (.read path)).1 = (answer ((fileStream v s.chunkSize e).contents x')).map fun data =>
      .contents (some data) := by
  simp only [ask, read, onVolume, hs, inDirectory_bind, hresolve]
  simp only [bind, EStateM.bind]
  cases (fileStream v s.chunkSize e).contents x' <;> rfl

/-- The contents of a file that was found are the answer. -/
theorem ask_read_file {s : Session δ} {v : Volume} {x x' x'' : BlockStream δ} {path : String}
    {e : DirEntry} {data : Bytes} (hs : s.state = .mounted v x)
    (hresolve : v.resolve path x = .ok (some (.file e)) x')
    (hcontents : (fileStream v s.chunkSize e).contents x' = .ok data x'') :
    (s.ask (.read path)).1 = .ok (.contents (some data)) := by
  rw [ask_read_answer hs hresolve, hcontents]
  rfl

/-- The volume of a session and the entry of the file that a path leads to. -/
def fileAt? (s : Session δ) (path : String) : Option (Volume × DirEntry) :=
  match s.state with
  | .closed _ => none
  | .mounted v x =>
      match v.resolve path x with
      | .ok (some (.file e)) _ => some (v, e)
      | _ => none

theorem fileAt?_eq_some {s : Session δ} {path : String} {v : Volume} {e : DirEntry}
    (h : s.fileAt? path = some (v, e)) :
    ∃ x x', s.state = .mounted v x ∧ v.resolve path x = .ok (some (.file e)) x' := by
  unfold fileAt? at h
  split at h
  · cases h
  · next v' x hs =>
    split at h
    · next e' x' hresolve =>
      cases h
      exact ⟨x, x', hs, hresolve⟩
    · cases h

/-- A path whose contents were read has led to a file. -/
theorem fileAt?_of_contents {s : Session δ} {path : String} {data : Bytes}
    (h : (s.ask (.read path)).1 = .ok (.contents (some data))) :
    ∃ v e, s.fileAt? path = some (v, e) := by
  unfold fileAt?
  cases hs : s.state with
  | closed d =>
    simp only [ask, read, onVolume, hs] at h
    cases h
  | mounted v x =>
    simp only [ask, read, onVolume, hs, inDirectory_bind] at h
    dsimp only
    rcases hresolve : v.resolve path x with ⟨_ | _ | e, x'⟩ | ⟨e, x'⟩ <;> rw [hresolve] at h
    · cases h
    · cases h
    · exact ⟨v, e, rfl⟩
    · cases h

/-- **A file is read as the allocation table records it.**  On a device with fixed contents and
blocks of at most 65536 bytes, and after any calls: where a path leads to a file whose chain has as
many clusters as its recorded size takes, all inside the partition, and no read of the device fails
during the call, the call returns the bytes of those clusters in the order of the chain, cut at the
recorded size. -/
theorem file_read_as_recorded {k : Disk} (hd : FaultLog k Sound failures)
    (hsmall : k.blockSize ≤ 65536) {name : String} {granted : Bool} {d : δ} (hs : Sound d)
    {opened : Session δ} (ho : openWith name granted (.ok d) = .ok opened) :
    ∃ w : Window, w.disk = k ∧ w.firstLba = opened.partition.firstLba ∧
      w.blockCount = opened.partition.blockCount ∧
      ∀ (earlier : List FileTask) (path : String) (v : Volume) (e : DirEntry),
        let s := opened.askAll earlier
        let size := e.slot.size
        let count := (size + v.clusterSize - 1) / v.clusterSize
        let cs := v.clusters w count (e.slot.firstCluster? v.fatType)
        s.fileAt? path = some (v, e) → cs.length = count →
        (∀ c ∈ cs, v.record.clusterStart c + v.clusterSize ≤ w.length) →
        failures (s.ask (.read path)).2.device = failures s.device →
        (s.ask (.read path)).1 =
          .ok (.contents (some ((cs.flatMap (v.clusterBytes w)).take size))) := by
  obtain ⟨rfl, hmount⟩ := openWith_ok ho
  obtain ⟨w, rfl, ⟨hfirst, hcount⟩, bare, -, halike⟩ := alike_mount_partition hd hs hmount
  refine ⟨w, rfl, hfirst, hcount, ?_⟩
  intro earlier path v e s size count cs hfile henough hinside hquiet
  have hsame : Alike w Sound failures s bare := alike_askAll hd halike earlier
  rw [ask_quiet hd hsame hquiet]
  obtain ⟨x, x', hstate, hresolve⟩ := fileAt?_eq_some hfile
  obtain ⟨v', x₀, y, hx, hy, hrel⟩ := hsame.mounted
  cases hx.symm.trans hstate
  obtain ⟨y', hresolve', hbare⟩ := resolve_alike hd hrel hresolve
  obtain ⟨y₁, hcontents⟩ :=
    FileStream.contents_disk (e := e) ⟨hsmall, henough, hinside⟩ hbare bare.chunkSize
  exact ask_read_file hy hresolve' hcontents

/-- Four clusters, of which a file of 1100 bytes has the third, the first and the fourth.  Each of
these starts with another letter. -/
def scatteredDisk : Disk where
  image :=
    Image.zeros 3584
      |>.overlay 0 (.ofBytes [0xEB, 0x3C, 0x90, 0, 0, 0, 0, 0, 0, 0, 0,
        0, 2, 1, 1, 0, 1, 16, 0, 7, 0, 0xF8, 1, 0])
      |>.overlay 54 (.ofBytes (Bytes.ofAscii "FAT12   "))
      |>.overlay 510 (.ofBytes [0x55, 0xAA])
      |>.overlay 512 (.ofBytes [0xF8, 0xFF, 0xFF, 0x05, 0, 0, 0x02, 0xF0, 0xFF])
      |>.overlay 1024 (.ofBytes (Bytes.ofAscii "A          " ++
        [0x20, 0, 0, 0, 0, 0, 0, 0, 0, 0, 0, 0, 0, 0, 0, 4, 0, 0x4C, 4, 0, 0]))
      |>.overlay 1536 (.ofBytes (Bytes.ofAscii "b"))
      |>.overlay 2560 (.ofBytes (Bytes.ofAscii "a"))
      |>.overlay 3072 (.ofBytes (Bytes.ofAscii "c"))

/-- The whole of it. -/
def scatteredWindow : Window := ⟨scatteredDisk, 0, 7, by decide, by decide⟩

/-- The three clusters are read in the order of the chain, and the last one not to its end. -/
theorem file_read_as_recorded_scattered :
    ∃ (opened : Session Disk) (v : Volume) (e : DirEntry) (data : Bytes),
      openWith "stick" true (.ok scatteredDisk) = .ok opened ∧
      opened.fileAt? "/a" = some (v, e) ∧
      v.clusters scatteredWindow 3 (e.slot.firstCluster? v.fatType) = [4, 2, 5] ∧
      (opened.ask (.read "/a")).1 = .ok (.contents (some data)) ∧
      data = ([4, 2, 5].flatMap (v.clusterBytes scatteredWindow)).take 1100 ∧
      [0, 512, 1024].map (Bytes.byteAt data) = [0x61, 0x62, 0x63] := by
  have hrun : ((openWith "stick" true (.ok scatteredDisk)).toOption.bind fun s =>
      (s.fileAt? "/a").map fun found =>
        ([s.partition.firstLba, s.partition.blockCount, found.2.slot.size, found.1.clusterSize],
          found.1.clusters scatteredWindow 3 (found.2.slot.firstCluster? found.1.fatType),
          [4, 2, 5].map found.1.record.clusterStart)) =
      some ([0, 7, 1100, 512], [4, 2, 5], [2560, 1536, 3072]) := by decide +kernel
  cases ho : openWith "stick" true (.ok scatteredDisk) with
  | error r =>
    rw [ho] at hrun
    cases hrun
  | ok opened =>
    rw [ho] at hrun
    cases hfile : opened.fileAt? "/a" with
    | none =>
      simp only [Except.toOption, Option.bind_some, hfile, Option.map_none] at hrun
      cases hrun
    | some found =>
      obtain ⟨v, e⟩ := found
      simp only [Except.toOption, Option.bind_some, hfile, Option.map_some, Option.some.injEq,
        Prod.mk.injEq, List.map_cons, List.map_nil, List.cons.injEq, and_true] at hrun
      obtain ⟨⟨hfirst, hcount, hsize, hcluster⟩, hchain, hthird, hone, hfourth⟩ := hrun
      obtain ⟨⟨k, first, count, hpos, hin⟩, hk, hw, hw', hall⟩ :=
        file_read_as_recorded (Disk.faultLog scatteredDisk) (by decide) rfl ho
      obtain rfl : k = scatteredDisk := hk
      obtain rfl : first = 0 := hw.trans hfirst
      obtain rfl : count = 7 := hw'.trans hcount
      have hthree : (e.slot.size + v.clusterSize - 1) / v.clusterSize = 3 := by
        rw [hsize, hcluster]
      have hread := hall [] "/a" v e hfile
      rw [hthree, hsize] at hread
      have hinside : ∀ c ∈ [4, 2, 5],
          v.record.clusterStart c + v.clusterSize ≤ scatteredWindow.length := by
        simp only [List.forall_mem_cons, List.not_mem_nil, hthird, hone, hfourth, hcluster,
          false_imp_iff, implies_true]
        decide
      have hanswer := hread (congrArg List.length hchain) (hchain ▸ hinside) rfl
      have hdata : ((v.clusters scatteredWindow 3 (e.slot.firstCluster? v.fatType)).flatMap
          (v.clusterBytes scatteredWindow)).take 1100 =
          ([4, 2, 5].flatMap (v.clusterBytes scatteredWindow)).take 1100 := by rw [hchain]
      refine ⟨opened, v, e, _, rfl, hfile, hchain, hanswer, hdata, ?_⟩
      show [0, 512, 1024].map (Bytes.byteAt (((v.clusters scatteredWindow 3
        (e.slot.firstCluster? v.fatType)).flatMap (v.clusterBytes scatteredWindow)).take 1100)) = _
      rw [hdata]
      simp only [List.flatMap_cons, List.flatMap_nil, Volume.clusterBytes, hthird, hone, hfourth,
        hcluster]
      decide +kernel

end Session
end ThumbDrive
