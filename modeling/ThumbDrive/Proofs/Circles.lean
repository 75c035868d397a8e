import Mathlib.Data.Finset.Card
import Mathlib.Order.Interval.Finset.Nat
import ThumbDrive.Proofs.Names
import ThumbDrive.Proofs.Paths
import ThumbDrive.Proofs.Slots

/-! # Directories without an end

A walk through a directory ends at the first slot that is not in use or cannot be read, or with the
entry wanted.  A chain of clusters that comes back to one of them may have none of these, and a walk
along it goes on for as long as it is let: `Session.looks_end_unless_endless`.  Nothing else keeps
one from ending.  A walk takes in at most as many slots as the window has room for, if it ends.

* A walk that takes in more slots than there are, takes in a cluster again, since the places of the
  slots of different clusters are different (`slots_le`).
* From a cluster taken in again, the same slots come again.  The walk may still end there although
  it did not end before: a long name in front of an entry may be one that was collected across the
  turn.  But what was collected before the turn is forgotten after 31 slots (`passes_again`), and so
  much room for slots is in front of the clusters.

There is one more exception.  A chain may come to the numbers 0 and 1, which name no cluster; a walk
goes on in the first cluster there, and may take in its slots three times in all. -/
namespace ThumbDrive

/-! ## Counting -/

namespace DirCursor
variable {δ : Type} [BlockDevice δ] (v : Volume) (stop : DirEntry → Bool)

/-- Whether a walk goes on behind a slot. -/
def goesOn (pending : PendingName) (slot : Slot) : Bool :=
  (absorb pending slot).1.all fun e => !stop e

/-- **How many slots a walk takes in** that may take in `slots`. -/
def visits : (slots : Nat) → PendingName → DirCursor × BlockStream δ → Nat
  | 0, _, _ => 0
  | slots + 1, pending, t =>
      match slot? v t with
      | .ok (some slot) t =>
          if goesOn stop pending slot then visits slots (absorb pending slot).2 t + 1 else 1
      | _ => 0

variable {v stop} {slots : Nat} {pending : PendingName} {seen : List DirEntry}
  {t t' : DirCursor × BlockStream δ} {slot : Slot}

theorem visits_slot (h : slot? v t = .ok (some slot) t') :
    visits v stop (slots + 1) pending t =
      if goesOn stop pending slot then visits v stop slots (absorb pending slot).2 t' + 1
      else 1 := by
  simp only [visits, h]

theorem visits_none (h : slot? v t = .ok none t') : visits v stop slots pending t = 0 := by
  cases slots with
  | zero => rfl
  | succ slots => simp only [visits, h]

theorem visits_error {e : IoError} (h : slot? v t = .error e t') :
    visits v stop slots pending t = 0 := by
  cases slots with
  | zero => rfl
  | succ slots => simp only [visits, h]

theorem walk_none (h : slot? v t = .ok none t') :
    walk v stop (slots + 1) pending seen t = .ok seen.reverse t' := by
  simp only [walk, h]

theorem walk_error {e : IoError} (h : slot? v t = .error e t') :
    walk v stop (slots + 1) pending seen t = .error e t' := by
  simp only [walk, h]

/-- A slot is taken in. -/
theorem walk_slot (h : slot? v t = .ok (some slot) t') :
    walk v stop (slots + 1) pending seen t =
      if goesOn stop pending slot then
        walk v stop slots (absorb pending slot).2 ((absorb pending slot).1.toList ++ seen) t'
      else .ok ((absorb pending slot).1.toList ++ seen).reverse t' := by
  simp only [walk, h]
  unfold goesOn
  rcases absorb pending slot with ⟨_ | e, pending'⟩
  · rfl
  · cases hstop : stop e <;> simp [hstop]

/-- A walk that takes in fewer slots than it may has returned: to let it take in more of them
changes nothing. -/
theorem walk_more (h : visits v stop slots pending t < slots) (more : Nat) :
    walk v stop (slots + more) pending seen t = walk v stop slots pending seen t := by
  induction slots generalizing pending seen t with
  | zero => cases h
  | succ slots ih =>
    rw [Nat.add_right_comm]
    cases hslot : slot? v t with
    | error e t' => rw [walk_error hslot, walk_error hslot]
    | ok slot? t' =>
      cases slot? with
      | none => rw [walk_none hslot, walk_none hslot]
      | some slot =>
        rw [visits_slot hslot] at h
        rw [walk_slot hslot, walk_slot hslot]
        by_cases hgo : goesOn stop pending slot = true
        · rw [if_pos hgo] at h
          rw [if_pos hgo, if_pos hgo]
          exact ih (by omega)
        · rw [if_neg hgo, if_neg hgo]

end DirCursor

/-! ## Walks without reading -/

namespace Directory
variable (v : Volume) (w : Window) (d : Directory) (stop : DirEntry → Bool)

/-- The long name collected in front of a slot. -/
def pendingAt : Nat → PendingName
  | 0 => {}
  | i + 1 =>
      match d.slotAt v w i with
      | .ok (some slot) => (DirCursor.absorb (pendingAt i) slot).2
      | _ => {}

/-- Whether there is a slot of that number and a walk goes on behind it. -/
def passes (i : Nat) : Bool :=
  match d.slotAt v w i with
  | .ok (some slot) => DirCursor.goesOn stop (d.pendingAt v w i) slot
  | _ => false

/-- No slot ends a walk. -/
def Endless : Prop := ∀ i, d.passes v w stop i = true

variable {v w d stop} {i : Nat} {slot : Slot}

theorem pendingAt_succ (h : d.slotAt v w i = .ok (some slot)) :
    d.pendingAt v w (i + 1) = (DirCursor.absorb (d.pendingAt v w i) slot).2 := by
  simp only [pendingAt, h]

theorem passes_slot (h : d.slotAt v w i = .ok (some slot)) :
    d.passes v w stop i = DirCursor.goesOn stop (d.pendingAt v w i) slot := by
  simp only [passes, h]

theorem slot_of_passes (h : d.passes v w stop i = true) :
    ∃ slot, d.slotAt v w i = .ok (some slot) := by
  unfold passes at h
  split at h
  · next slot hslot => exact ⟨slot, hslot⟩
  · cases h

theorem whole_of_slotAt (h : d.slotAt v w i = .ok (some slot)) : slot.Whole := by
  have hwithin : ∀ place stop, w.slotWithin place stop = .ok (some slot) → slot.Whole := by
    intro place stop hslot
    unfold Window.slotWithin at hslot
    dsimp only at hslot
    split at hslot
    · cases hslot
    · split at hslot
      · cases hslot
      · split at hslot
        · cases hslot
        · cases hslot
          exact Slot.whole_ofBytes (w.length_slice _ _)
  unfold slotAt at h
  split at h
  · exact hwithin _ _ h
  · cases h
  · split at h <;> cases h

theorem roomy_pendingAt (v : Volume) (w : Window) (d : Directory) (i : Nat) :
    (d.pendingAt v w i).Roomy := by
  induction i with
  | zero => exact PendingName.roomy_empty
  | succ i ih =>
    rw [pendingAt]
    split
    · next slot hslot => exact DirCursor.roomy_absorb ih (whole_of_slotAt hslot)
    · exact PendingName.roomy_empty

end Directory

namespace DirCursor
variable {v : Volume} {w : Window} {d : Directory} {stop : DirEntry → Bool} {i : Nat}
  {c : DirCursor} {t : BlockStream Disk}

/-- A walk takes in all slots it may, while they let it pass. -/
theorem visits_of_passes (limit : Nat) (ht : w.Bare t) (hc : At v w d (Slot.size * i) c)
    (h : ∀ j < limit, d.passes v w stop (i + j) = true) :
    visits v stop limit (d.pendingAt v w i) (c, t) = limit := by
  induction limit generalizing i c t with
  | zero => rfl
  | succ limit ih =>
    have hpass := h 0 (Nat.succ_pos _)
    rw [Nat.add_zero] at hpass
    obtain ⟨slot, hslot⟩ := Directory.slot_of_passes hpass
    obtain ⟨⟨c', t'⟩, ht', hread, hc'⟩ := slot?_bare ht hc
    rw [hslot] at hread
    rw [Directory.passes_slot hslot] at hpass
    rw [visits_slot (IoOn.ok_of_outcome hread), if_pos hpass, ← Directory.pendingAt_succ hslot,
      ih ht' (hc' slot hslot)]
    intro j hj
    rw [Nat.add_assoc, Nat.add_comm 1]
    exact h (j + 1) (Nat.succ_lt_succ hj)

/-- What a walk takes in are slots, and all but the last one let it pass. -/
theorem of_lt_visits {limit j : Nat} (ht : w.Bare t) (hc : At v w d (Slot.size * i) c)
    (h : j < visits v stop limit (d.pendingAt v w i) (c, t)) :
    (∃ slot, d.slotAt v w (i + j) = .ok (some slot)) ∧
      (j + 1 < visits v stop limit (d.pendingAt v w i) (c, t) →
        d.passes v w stop (i + j) = true) := by
  induction limit generalizing i c t j with
  | zero => cases h
  | succ limit ih =>
    obtain ⟨⟨c', t'⟩, ht', hread, hc'⟩ := slot?_bare ht hc
    cases hslot : d.slotAt v w i with
    | error e =>
      rw [hslot] at hread
      rw [visits_error (IoOn.error_of_outcome hread)] at h
      cases h
    | ok slot? =>
      rw [hslot] at hread
      cases slot? with
      | none =>
        rw [visits_none (IoOn.ok_of_outcome hread)] at h
        cases h
      | some slot =>
        rw [visits_slot (IoOn.ok_of_outcome hread)] at h ⊢
        rw [← Directory.passes_slot hslot, ← Directory.pendingAt_succ hslot] at h ⊢
        by_cases hpass : d.passes v w stop i = true
        · rw [if_pos hpass] at h ⊢
          cases j with
          | zero => exact ⟨⟨slot, hslot⟩, fun _ => hpass⟩
          | succ j =>
            have hnext := ih ht' (hc' slot hslot) (Nat.lt_of_succ_lt_succ h)
            rw [show i + (j + 1) = i + 1 + j by omega]
            exact ⟨hnext.1, fun hj => hnext.2 (Nat.lt_of_succ_lt_succ hj)⟩
        · rw [if_neg hpass] at h ⊢
          obtain rfl : j = 0 := by omega
          exact ⟨⟨slot, hslot⟩, fun hj => absurd hj (by omega)⟩

end DirCursor

/-! ## Clusters taken in again -/

namespace Volume
variable (v : Volume)

/-- Slots in a cluster. -/
def clusterSlots : Nat := v.clusterSize / Slot.size

/-- Room for slots in front of the clusters. -/
def headSlots : Nat := v.record.firstDataSector * v.record.bytesPerSector / Slot.size

theorem size_mul_clusterSlots : Slot.size * v.clusterSlots = v.clusterSize :=
  Nat.mul_div_cancel' v.dvd_clusterSize

theorem clusterSlots_pos : 0 < v.clusterSlots := by
  have hpos := v.clusterSize_pos
  rw [← v.size_mul_clusterSlots] at hpos
  exact Nat.pos_of_mul_pos_left hpos

variable {v} {w : Window} {first : Option Nat}

/-- From a cluster that comes again, the chain is the same. -/
theorem chainAt_again {a b : Nat} (h : v.chainAt w first a = v.chainAt w first b) (n : Nat) :
    v.chainAt w first (a + n) = v.chainAt w first (b + n) := by
  induction n with
  | zero => exact h
  | succ n ih =>
    rw [← Nat.add_assoc, ← Nat.add_assoc, chainAt, chainAt, ih]

end Volume

namespace Directory
variable {v : Volume} {w : Window} {stop : DirEntry → Bool} {first a b : Nat}

/-- The places of the slots of a chain. -/
theorem placeAt_slot (first i : Nat) :
    (chain first).placeAt v w (Slot.size * i) =
      (v.chainAt w (some first) (i / v.clusterSlots)).map fun cluster? =>
        cluster?.map fun cluster =>
          (v.record.clusterStart cluster + Slot.size * (i % v.clusterSlots), w.length) := by
  have hdiv : Slot.size * i / v.clusterSize = i / v.clusterSlots := by
    rw [← v.size_mul_clusterSlots]
    exact Nat.mul_div_mul_left i v.clusterSlots (by decide)
  have hmod : Slot.size * i % v.clusterSize = Slot.size * (i % v.clusterSlots) := by
    rw [← v.size_mul_clusterSlots]
    exact Nat.mul_mod_mul_left Slot.size i v.clusterSlots
  rw [placeAt, hdiv, hmod]

/-- The same slots come again. -/
theorem slotAt_again (h : v.chainAt w (some first) a = v.chainAt w (some first) b) (n : Nat) :
    (chain first).slotAt v w (a * v.clusterSlots + n) =
      (chain first).slotAt v w (b * v.clusterSlots + n) := by
  have hplace : ∀ q, (q * v.clusterSlots + n) / v.clusterSlots = q + n / v.clusterSlots ∧
      (q * v.clusterSlots + n) % v.clusterSlots = n % v.clusterSlots := by
    intro q
    rw [Nat.add_comm, Nat.add_mul_div_right n q v.clusterSlots_pos, Nat.add_mul_mod_self_right]
    exact ⟨Nat.add_comm _ _, rfl⟩
  unfold slotAt
  rw [placeAt_slot, placeAt_slot, (hplace a).1, (hplace a).2, (hplace b).1, (hplace b).2,
    Volume.chainAt_again h]

/-- What was collected before the turn is forgotten. -/
theorem pendingAt_again (h : v.chainAt w (some first) a = v.chainAt w (some first) b) (n : Nat) :
    PendingName.AlikeSoon (31 - n) ((chain first).pendingAt v w (a * v.clusterSlots + n))
      ((chain first).pendingAt v w (b * v.clusterSlots + n)) := by
  induction n with
  | zero => exact .inr ⟨(roomy_pendingAt v w _ _).index_le, (roomy_pendingAt v w _ _).index_le⟩
  | succ n ih =>
    rw [← Nat.add_assoc, ← Nat.add_assoc, pendingAt, pendingAt, ← slotAt_again h,
      Nat.sub_succ']
    split
    · next slot hslot =>
      exact DirCursor.alikeSoon_absorb ih (roomy_pendingAt v w _ _) (roomy_pendingAt v w _ _)
        (whole_of_slotAt hslot)
    · exact .inl PendingName.Alike.rfl

/-- A slot that comes again lets a walk pass if it did before, unless a name that was collected
before the turn may still be in progress. -/
theorem passes_again (h : v.chainAt w (some first) a = v.chainAt w (some first) b) {n : Nat}
    (hn : 31 ≤ n) :
    (chain first).passes v w stop (a * v.clusterSlots + n) =
      (chain first).passes v w stop (b * v.clusterSlots + n) := by
  have halike := pendingAt_again h n
  rw [Nat.sub_eq_zero_of_le hn] at halike
  unfold passes
  rw [← slotAt_again h]
  split
  · unfold DirCursor.goesOn
    rw [DirCursor.entry_absorb halike.alike]
  · rfl

/-- **A walk that passes a turn and 31 slots more goes on for ever.** -/
theorem endless_of_passes (hlt : a < b)
    (h : v.chainAt w (some first) a = v.chainAt w (some first) b)
    (hpasses : ∀ i < b * v.clusterSlots + 31, (chain first).passes v w stop i = true) :
    (chain first).Endless v w stop := by
  intro i
  induction i using Nat.strong_induction_on with
  | _ i ih =>
    by_cases hi : i < b * v.clusterSlots + 31
    · exact hpasses i hi
    · have hless : a * v.clusterSlots < b * v.clusterSlots :=
        Nat.mul_lt_mul_of_pos_right hlt v.clusterSlots_pos
      obtain ⟨n, rfl⟩ : ∃ n, i = b * v.clusterSlots + n := ⟨i - b * v.clusterSlots, by omega⟩
      rw [← passes_again h (by omega)]
      exact ih _ (by omega)

end Directory

/-! ## Room for slots -/

/-- There are no more different numbers in a range than the range has. -/
theorem le_of_injective {k low high : Nat} {f : Nat → Nat}
    (hinjective : ∀ i < k, ∀ j < k, f i = f j → i = j) (hrange : ∀ i < k, low ≤ f i ∧ f i < high) :
    k ≤ high - low := by
  have hmaps : Set.MapsTo f (Finset.range k) (Finset.Ico low high) := by
    intro i hi
    rw [Finset.mem_coe, Finset.mem_range] at hi
    exact Finset.mem_coe.mpr (Finset.mem_Ico.mpr (hrange i hi))
  have hle := Finset.card_le_card_of_injOn f hmaps fun i hi j hj hsame => by
    rw [Finset.mem_coe, Finset.mem_range] at hi hj
    exact hinjective i hi j hj hsame
  rwa [Finset.card_range, Nat.card_Ico] at hle

/-- Room for slots in a window. -/
def Window.slots (w : Window) : Nat := w.length / Slot.size

namespace Volume
variable (v : Volume)

theorem size_mul_headSlots :
    Slot.size * v.headSlots = v.record.firstDataSector * v.record.bytesPerSector := by
  have hsector : ∀ n ∈ [512, 1024, 2048, 4096], Slot.size ∣ n := by decide
  exact Nat.mul_div_cancel' (Nat.dvd_mul_left_of_dvd (hsector _ v.bytesPerSector_mem) _)

/-- In front of the clusters are the boot sector and an allocation table. -/
theorem two_le_firstDataSector : 2 ≤ v.record.firstDataSector := by
  have hreserved : (v.record.reservedSectors == 0) = false :=
    v.lacks .noReservedSectors (by simp [BootRecord.flaws])
  have hfats : (v.record.fatCount == 0) = false := v.lacks .noFats (by simp [BootRecord.flaws])
  have hwide : (v.record.isWide && v.record.sectorsPerFat32 == 0) = false :=
    v.lacks .noSectorsPerFat (by simp [BootRecord.flaws])
  have htable : 0 < v.record.sectorsPerFat := by
    unfold BootRecord.sectorsPerFat
    by_cases h : v.record.isWide = true
    · rw [h, Bool.true_and, beq_eq_false_iff_ne] at hwide
      rw [if_pos h]
      exact Nat.pos_of_ne_zero hwide
    · rw [if_neg h]
      refine Nat.pos_of_ne_zero fun hzero => h ?_
      rw [BootRecord.isWide, hzero]
      rfl
  rw [beq_eq_false_iff_ne] at hreserved hfats
  have htables := Nat.mul_pos (Nat.pos_of_ne_zero hfats) htable
  unfold BootRecord.firstDataSector BootRecord.firstRootSector
  omega

theorem le_headSlots : 32 ≤ v.headSlots := by
  have hbytes := Nat.mul_le_mul v.two_le_firstDataSector v.le_bytesPerSector
  have hslot : Slot.size = 32 := rfl
  rw [← v.size_mul_headSlots, hslot] at hbytes
  omega

end Volume

namespace Directory
variable {v : Volume} {w : Window} {stop : DirEntry → Bool} {first : Nat}

/-- A chain that comes to a number that names no cluster. -/
def Stray (v : Volume) (w : Window) : Directory → Prop
  | .fixed _ => False
  | .chain first => ∃ q cluster, v.chainAt w (some first) q = .ok (some cluster) ∧ cluster < 2

/-- A chain that comes to a cluster again. -/
def Circular (v : Volume) (w : Window) : Directory → Prop
  | .fixed _ => False
  | .chain first => ∃ a b cluster, a < b ∧ v.chainAt w (some first) a = .ok (some cluster) ∧
      v.chainAt w (some first) b = .ok (some cluster)

/-- Where a slot of a chain has its place. -/
theorem cluster_of_slotAt {i : Nat} {slot : Slot}
    (h : (chain first).slotAt v w i = .ok (some slot)) :
    ∃ cluster, v.chainAt w (some first) (i / v.clusterSlots) = .ok (some cluster) ∧
      v.headSlots + (cluster - 2) * v.clusterSlots + i % v.clusterSlots < w.slots := by
  obtain ⟨place, stop, hplace, hin⟩ := place_of_slotAt h
  rw [placeAt_slot] at hplace
  cases hchain : v.chainAt w (some first) (i / v.clusterSlots) with
  | error e =>
    rw [hchain] at hplace
    cases hplace
  | ok cluster? =>
    rw [hchain] at hplace
    cases cluster? with
    | none => cases hplace
    | some cluster =>
      cases hplace
      refine ⟨cluster, rfl, ?_⟩
      refine (Nat.le_div_iff_mul_le (by decide)).mpr ?_
      calc (v.headSlots + (cluster - 2) * v.clusterSlots + i % v.clusterSlots + 1) * Slot.size
          = Slot.size * v.headSlots + (cluster - 2) * (Slot.size * v.clusterSlots) +
              Slot.size * (i % v.clusterSlots) + Slot.size := by
            rw [Nat.mul_comm, Nat.mul_add, Nat.mul_add, Nat.mul_add, Nat.mul_one,
              Nat.mul_left_comm Slot.size (cluster - 2)]
        _ = v.record.clusterStart cluster + Slot.size * (i % v.clusterSlots) + Slot.size := by
            rw [v.size_mul_headSlots, v.size_mul_clusterSlots]
            rfl
        _ ≤ w.length := hin

/-- The place of a slot of a cluster, in slots from where a cluster of number 0 would be. -/
def slotPlace (v : Volume) (cluster i : Nat) : Nat :=
  cluster * v.clusterSlots + i % v.clusterSlots

theorem slotPlace_inj {c c' i j : Nat} (h : slotPlace v c i = slotPlace v c' j) :
    c = c' ∧ i % v.clusterSlots = j % v.clusterSlots := by
  have hm := v.clusterSlots_pos
  have hplace : ∀ c i, slotPlace v c i / v.clusterSlots = c ∧
      slotPlace v c i % v.clusterSlots = i % v.clusterSlots := by
    intro c i
    unfold slotPlace
    rw [Nat.add_comm, Nat.add_mul_div_right _ c hm, Nat.add_mul_mod_self_right, Nat.mod_mod,
      Nat.div_eq_of_lt (Nat.mod_lt i hm), Nat.zero_add]
    exact ⟨rfl, rfl⟩
  rw [← (hplace c i).1, ← (hplace c' j).1, ← (hplace c i).2, ← (hplace c' j).2, h]
  exact ⟨rfl, rfl⟩

theorem slotPlace_lt {c i : Nat}
    (h : v.headSlots + (c - 2) * v.clusterSlots + i % v.clusterSlots < w.slots) :
    v.headSlots + slotPlace v c i < w.slots + 2 * v.clusterSlots := by
  have hlt := Nat.mod_lt i v.clusterSlots_pos
  unfold slotPlace
  match c, h with
  | 0, _ => omega
  | 1, _ => omega
  | c + 2, h =>
    rw [Nat.add_sub_cancel] at h
    rw [Nat.add_mul]
    omega

/-- **Slots of different clusters have different places.**  So there is room for them, and for what
is in front of the clusters; the numbers 0 and 1 stand for the first cluster. -/
theorem slots_le {k extra : Nat} (hpos : 0 < k)
    (hslots : ∀ i < k, ∃ slot, (chain first).slotAt v w i = .ok (some slot))
    (hdistinct : ∀ a b cluster, a < b → b * v.clusterSlots < k →
      v.chainAt w (some first) a = .ok (some cluster) →
      v.chainAt w (some first) b ≠ .ok (some cluster))
    (hextra : (chain first).Stray v w → 2 * v.clusterSlots ≤ extra) :
    v.headSlots + k ≤ w.slots + extra := by
  have hcluster : ∀ i, ∃ cluster, i < k →
      v.chainAt w (some first) (i / v.clusterSlots) = .ok (some cluster) ∧
        v.headSlots + (cluster - 2) * v.clusterSlots + i % v.clusterSlots < w.slots := by
    intro i
    by_cases hi : i < k
    · obtain ⟨slot, hslot⟩ := hslots i hi
      obtain ⟨cluster, h⟩ := cluster_of_slotAt hslot
      exact ⟨cluster, fun _ => h⟩
    · exact ⟨0, fun h => absurd h hi⟩
  choose number hnumber using hcluster
  have hinjective : ∀ i < k, ∀ j < k, slotPlace v (number i) i = slotPlace v (number j) j →
      i = j := by
    intro i hi j hj hsame
    obtain ⟨hnumbers, hmods⟩ := slotPlace_inj hsame
    have hbefore : ∀ i < k, i / v.clusterSlots * v.clusterSlots < k := fun i hi =>
      Nat.lt_of_le_of_lt (Nat.div_mul_le_self i _) hi
    have hchain := (hnumber i hi).1
    have hchain' := (hnumber j hj).1
    rw [← hnumbers] at hchain'
    have hdivs : i / v.clusterSlots = j / v.clusterSlots := by
      rcases Nat.lt_trichotomy (i / v.clusterSlots) (j / v.clusterSlots) with hlt | heq | hgt
      · exact absurd hchain' (hdistinct _ _ _ hlt (hbefore j hj) hchain)
      · exact heq
      · exact absurd hchain (hdistinct _ _ _ hgt (hbefore i hi) hchain')
    rw [← Nat.div_add_mod i v.clusterSlots, ← Nat.div_add_mod j v.clusterSlots, hdivs, hmods]
  have hhead : v.headSlots < w.slots := by
    have hzero := (hnumber 0 hpos).2
    omega
  have hcount : ∀ low, (∀ i < k, low ≤ slotPlace v (number i) i) →
      k ≤ w.slots - v.headSlots + 2 * v.clusterSlots - low := by
    intro low hlow
    refine le_of_injective hinjective fun i hi => ⟨hlow i hi, ?_⟩
    have hlt := slotPlace_lt (hnumber i hi).2
    omega
  by_cases hstray : (chain first).Stray v w
  · have hle := hcount 0 fun i _ => Nat.zero_le _
    have htwo := hextra hstray
    omega
  · have hle := hcount (2 * v.clusterSlots) fun i hi => by
      have hnumbered : 2 ≤ number i := Nat.le_of_not_lt fun hlow =>
        hstray ⟨_, _, (hnumber i hi).1, hlow⟩
      exact Nat.le_add_right_of_le (Nat.mul_le_mul_right _ hnumbered)
    omega

/-- The first cluster that comes again is found in the room for slots. -/
theorem exists_again {k extra : Nat} (hmany : w.slots + extra < k)
    (hslots : ∀ i < k, ∃ slot, (chain first).slotAt v w i = .ok (some slot))
    (hextra : (chain first).Stray v w → 2 * v.clusterSlots ≤ extra) :
    ∃ a b cluster, a < b ∧ v.chainAt w (some first) a = .ok (some cluster) ∧
      v.chainAt w (some first) b = .ok (some cluster) ∧
      b * v.clusterSlots + 32 ≤ w.slots + extra := by
  classical
  have hsome : ∃ b, b * v.clusterSlots < k ∧ ∃ a cluster, a < b ∧
      v.chainAt w (some first) a = .ok (some cluster) ∧
      v.chainAt w (some first) b = .ok (some cluster) := by
    by_contra hnone
    have hle : v.headSlots + k ≤ w.slots + extra := slots_le (by omega) hslots
      (fun a b cluster hlt hb ha hb' => hnone ⟨b, hb, a, cluster, hlt, ha, hb'⟩) hextra
    omega
  obtain ⟨hb, a, cluster, hlt, ha, hb'⟩ := Nat.find_spec hsome
  refine ⟨a, Nat.find hsome, cluster, hlt, ha, hb', ?_⟩
  have hpos : 0 < Nat.find hsome * v.clusterSlots :=
    Nat.mul_pos (Nat.zero_lt_of_lt hlt) v.clusterSlots_pos
  have hle : v.headSlots + Nat.find hsome * v.clusterSlots ≤ w.slots + extra := by
    refine slots_le hpos (fun i hi => hslots i (Nat.lt_trans hi hb)) ?_ hextra
    intro a' b' cluster' hlt' hless ha' hb''
    have hearlier : b' < Nat.find hsome := Nat.lt_of_mul_lt_mul_right hless
    exact Nat.find_min hsome hearlier ⟨Nat.lt_trans hless hb, a', cluster', hlt', ha', hb''⟩
  have hhead := v.le_headSlots
  omega

/-- A root directory of fixed size has its slots in the window. -/
theorem fixed_slots_le {r : Region} {k : Nat}
    (hslots : ∀ i < k, ∃ slot, (fixed r).slotAt v w i = .ok (some slot)) : k ≤ w.slots := by
  cases k with
  | zero => exact Nat.zero_le _
  | succ i =>
    obtain ⟨slot, hslot⟩ := hslots i (Nat.lt_succ_self i)
    obtain ⟨place, stop, hplace, hin⟩ := place_of_slotAt hslot
    cases hplace
    refine (Nat.le_div_iff_mul_le (by decide)).mpr ?_
    rw [Nat.mul_comm, Nat.mul_succ]
    omega

/-- **A directory without an end is circular.** -/
theorem Endless.circular {d : Directory} (h : d.Endless v w stop) : d.Circular v w := by
  have hslots : ∀ k, ∀ i < k, ∃ slot, d.slotAt v w i = .ok (some slot) := fun k i _ =>
    slot_of_passes (h i)
  cases d with
  | fixed r => exact absurd (fixed_slots_le (hslots (w.slots + 1))) (Nat.not_succ_le_self _)
  | chain first =>
    obtain ⟨a, b, cluster, hlt, ha, hb, -⟩ :=
      exists_again (Nat.lt_succ_self (w.slots + 2 * v.clusterSlots)) (hslots _) fun _ => le_rfl
    exact ⟨a, b, cluster, hlt, ha, hb⟩

/-- **A walk that takes in more slots than there is room for has no end.** -/
theorem endless_of_lt_visits {d : Directory} {t : BlockStream Disk} {limit extra : Nat}
    (ht : w.Bare t) (hmany : w.slots + extra < DirCursor.visits v stop limit {} (d.start, t))
    (hextra : d.Stray v w → 2 * v.clusterSlots ≤ extra) : d.Endless v w stop := by
  have htaken : ∀ i < DirCursor.visits v stop limit {} (d.start, t),
      (∃ slot, d.slotAt v w i = .ok (some slot)) ∧
        (i + 1 < DirCursor.visits v stop limit {} (d.start, t) →
          d.passes v w stop i = true) := by
    intro i hi
    have hof := DirCursor.of_lt_visits (i := 0) ht (DirCursor.at_start v w d) hi
    rwa [Nat.zero_add] at hof
  generalize DirCursor.visits v stop limit {} (d.start, t) = k at hmany htaken
  cases d with
  | fixed r =>
    have hle := fixed_slots_le fun i hi => (htaken i hi).1
    omega
  | chain first =>
    obtain ⟨a, b, cluster, hlt, ha, hb, hroom⟩ :=
      exists_again hmany (fun i hi => (htaken i hi).1) hextra
    exact endless_of_passes hlt (ha.trans hb.symm) fun i hi => (htaken i (by omega)).2 (by omega)

end Directory

/-! ## On a device that fails -/

variable {δ : Type} [BlockDevice δ] {Sound : δ → Prop} {failures : δ → List IoError} {w : Window}

/-- A walk takes in as many slots as on the bare disk, or fewer because a read failed. -/
theorem DirCursor.visits_follow (hd : FaultLog w.disk Sound failures) (v : Volume)
    (stop : DirEntry → Bool) (limit : Nat) (pending : PendingName) (seen : List DirEntry)
    {s : DirCursor × BlockStream δ} {t : DirCursor × BlockStream Disk}
    (hst : ((w.streams Sound failures).beside DirCursor).Rel s t) :
    visits v stop limit pending s = visits v stop limit pending t ∨
      visits v stop limit pending s ≤ visits v stop limit pending t ∧
        ∃ es, es ≠ [] ∧ ((w.streams Sound failures).beside DirCursor).Since es s
          (IoOn.outcome (walk v stop limit pending seen) s).2 := by
  induction limit generalizing pending seen s t with
  | zero => exact .inl rfl
  | succ limit ih =>
    rcases follows_slot? hd v s t hst with hstep | hcut
    · rcases hstep.inv with ⟨slot?, s', t', es, hs, ht, hrel, hsince⟩ | ⟨e, s', t', es, hs, ht, -⟩ |
        ⟨e, s', es, hs, -, hsince, hne, -⟩
      · cases slot? with
        | none => exact .inl (by rw [visits_none hs, visits_none ht])
        | some slot =>
          rw [visits_slot hs, visits_slot ht]
          unfold IoOn.outcome
          rw [walk_slot hs]
          by_cases hgo : goesOn stop pending slot = true
          · rw [if_pos hgo, if_pos hgo, if_pos hgo]
            rcases ih _ _ hrel with hsame | ⟨hle, es', hne', hsince'⟩
            · exact .inl (congrArg (· + 1) hsame)
            · refine .inr ⟨Nat.succ_le_succ hle, es' ++ es, ?_, hsince.trans hsince'⟩
              exact List.append_ne_nil_of_left_ne_nil hne' es
          · rw [if_neg hgo, if_neg hgo]
            exact .inl rfl
      · exact .inl (by rw [visits_error hs, visits_error ht])
      · refine .inr ⟨by rw [visits_error hs]; exact Nat.zero_le _, es, hne, ?_⟩
        rw [IoOn.outcome_error (walk_error hs)]
        exact hsince
    · obtain ⟨slot?, s', es, hs, -, hsince, ⟨e, he, -⟩, rfl⟩ := hcut.ended
      refine .inr ⟨by rw [visits_none hs]; exact Nat.zero_le _, es, List.ne_nil_of_mem he, ?_⟩
      rw [IoOn.outcome_ok (walk_none hs)]
      exact hsince

/-! ## Looks along a path -/

/-- A look through a directory, as far as the entry wanted, and the stream it is made with. -/
structure Look (δ : Type) where
  directory : Directory
  stop : DirEntry → Bool
  stream : BlockStream δ

namespace Look
variable (v : Volume) (limit : Nat) (l : Look δ)

/-- The look, if it may take in `limit` slots; `Directory.entriesUntil` lets it take in as many as
offsets have numbers for. -/
def run : EStateM.Result IoError (DirCursor × BlockStream δ) (List DirEntry) :=
  DirCursor.walk v l.stop limit {} [] (l.directory.start, l.stream)

/-- How many it takes in. -/
def visits : Nat := DirCursor.visits v l.stop limit {} (l.directory.start, l.stream)

/-- The stream it leaves. -/
def left : BlockStream δ :=
  match l.run v limit with
  | .ok _ (_, x) => x
  | .error _ (_, x) => x

end Look

namespace Volume
variable (v : Volume)

/-- The looks for the components of a path, one after the other. -/
def looksFrom (d : Directory) : List String → BlockStream δ → List (Look δ)
  | [], _ => []
  | c :: cs, x =>
      ⟨d, DirEntry.answersTo c, x⟩ ::
        match d.find? v (DirEntry.answersTo c) x with
        | .ok (some e) x =>
            match v.nodeOf e with
            | .directory d => looksFrom d cs x
            | .file _ => []
        | _ => []

/-- All looks of a listing: those for the path, and one for the children of what it leads to. -/
def looks (path : String) (x : BlockStream δ) : List (Look δ) :=
  v.looksFrom v.root (Path.components path) x ++
    match v.resolve path x with
    | .ok (some (.directory d)) x => [⟨d, fun _ => false, x⟩]
    | _ => []

end Volume

/-- A component is looked for in the directory to which those before it lead. -/
theorem Volume.mem_looksFrom {v : Volume} {d d' : Directory} {components : List String}
    {x x' : BlockStream δ} (h : v.walkFrom d components x = .ok (some (.directory d')) x')
    (c : String) : ⟨d', DirEntry.answersTo c, x'⟩ ∈ v.looksFrom d (components ++ [c]) x := by
  induction components generalizing d x with
  | nil =>
    cases h
    exact List.mem_cons_self
  | cons c' cs ih =>
    rw [walkFrom] at h
    obtain ⟨found, x₁, hfind, h⟩ := IoOn.of_bind_ok h
    rw [List.cons_append, looksFrom, hfind]
    refine List.mem_cons_of_mem _ ?_
    cases found with
    | none => cases h
    | some e =>
      dsimp only at h ⊢
      cases hnode : v.nodeOf e with
      | directory d₁ =>
        rw [hnode] at h
        exact ih h
      | file e' =>
        rw [hnode] at h
        dsimp only at h
        split at h <;> cases h

theorem Pairing.FollowsOrCut.live {σ τ α : Type} {p : Pairing σ τ}
    {short : α → EStateM.Result IoError τ α → Prop} {x : IoOn σ α} {y : IoOn τ α} {s s' : σ} {a : α}
    (h : p.FollowsOrCut short x y) (hs : p.Live s) (hx : x s = .ok a s') : p.Live s' := by
  obtain ⟨t, hst⟩ := hs
  rcases h s t hst with hstep | hcut
  · rcases hstep.inv with ⟨a', s'', t', es, hx', -, hr, -⟩ | ⟨e, s'', t', es, hx', -⟩ |
      ⟨e, s'', es, hx', -⟩
    · cases hx.symm.trans hx'
      exact ⟨t', hr⟩
    · cases hx.symm.trans hx'
    · cases hx.symm.trans hx'
  · obtain ⟨a', s'', es, hx', hlive, -⟩ := hcut.ended
    cases hx.symm.trans hx'
    exact hlive

theorem Volume.live_looksFrom (hd : FaultLog w.disk Sound failures) (v : Volume) (d : Directory)
    {x : BlockStream δ} (hx : (w.streams Sound failures).Live x) (components : List String) :
    ∀ look ∈ v.looksFrom d components x, (w.streams Sound failures).Live look.stream := by
  induction components generalizing d x with
  | nil => exact fun look h => absurd h List.not_mem_nil
  | cons c cs ih =>
    intro look h
    rw [looksFrom] at h
    rcases List.mem_cons.mp h with rfl | h
    · exact hx
    · split at h
      · next e x' hfind =>
        have hx' := (Directory.follows_find? hd v d (DirEntry.answersTo c)).live hx hfind
        split at h
        · exact ih _ hx' look h
        · exact absurd h List.not_mem_nil
      · exact absurd h List.not_mem_nil

theorem Volume.live_looks (hd : FaultLog w.disk Sound failures) (v : Volume) (path : String)
    {x : BlockStream δ} (hx : (w.streams Sound failures).Live x) :
    ∀ look ∈ v.looks path x, (w.streams Sound failures).Live look.stream := by
  intro look h
  rcases List.mem_append.mp h with h | h
  · exact live_looksFrom hd v v.root hx _ look h
  · split at h
    · next d x' hresolve =>
      cases List.mem_singleton.mp h
      exact (follows_resolve hd v path).live hx hresolve
    · exact absurd h List.not_mem_nil

/-! ## What there is room for -/

namespace Look
variable {v : Volume} {look : Look δ}

/-- A look takes in what it takes in on the bare disk, or fewer slots because a read failed. -/
theorem visits_cases (hd : FaultLog w.disk Sound failures) {t : BlockStream Disk}
    (hst : (w.streams Sound failures).Rel look.stream t) (limit : Nat) :
    look.visits v limit = DirCursor.visits v look.stop limit {} (look.directory.start, t) ∨
      look.visits v limit ≤ DirCursor.visits v look.stop limit {} (look.directory.start, t) ∧
        failures (look.left v limit).device ≠ failures look.stream.device := by
  rcases DirCursor.visits_follow hd v look.stop limit {} []
    (show ((w.streams Sound failures).beside DirCursor).Rel (look.directory.start, look.stream)
      (look.directory.start, t) from ⟨rfl, hst⟩) with hsame | ⟨hle, es, hne, hsince⟩
  · exact .inl hsame
  · refine .inr ⟨hle, fun hquiet => hne ?_⟩
    have hleft : (look.left v limit) = (IoOn.outcome (DirCursor.walk v look.stop limit {} [])
        (look.directory.start, look.stream)).2.2 := by
      unfold left run IoOn.outcome
      split <;> next hrun => rw [hrun]
    rw [hleft] at hquiet
    have hlog : failures look.stream.device = es ++ failures look.stream.device :=
      hquiet.symm.trans hsince
    exact List.self_eq_append_left.mp hlog

/-- A look ends if the directory does. -/
theorem visits_le (hd : FaultLog w.disk Sound failures)
    (hlive : (w.streams Sound failures).Live look.stream)
    (h : ¬ look.directory.Endless v w look.stop) (limit extra : Nat)
    (hextra : look.directory.Stray v w → 2 * v.clusterSlots ≤ extra) :
    look.visits v limit ≤ w.slots + extra := by
  obtain ⟨t, hst⟩ := hlive
  have hbare : DirCursor.visits v look.stop limit {} (look.directory.start, t) ≤
      w.slots + extra :=
    Nat.le_of_not_lt fun hmany => h (Directory.endless_of_lt_visits hst.2 hmany hextra)
  rcases visits_cases hd hst limit with hsame | ⟨hle, -⟩
  · exact Nat.le_trans (Nat.le_of_eq hsame) hbare
  · exact Nat.le_trans hle hbare

/-- A look goes on for as long as it is let if the directory has no end. -/
theorem visits_eq (hd : FaultLog w.disk Sound failures)
    (hlive : (w.streams Sound failures).Live look.stream)
    (h : look.directory.Endless v w look.stop) (limit : Nat) :
    look.visits v limit = limit ∨
      failures (look.left v limit).device ≠ failures look.stream.device := by
  obtain ⟨t, hst⟩ := hlive
  have hbare : DirCursor.visits v look.stop limit {} (look.directory.start, t) = limit :=
    DirCursor.visits_of_passes limit (i := 0) hst.2 (DirCursor.at_start v w _) fun j _ => h _
  rcases visits_cases hd hst limit with hsame | ⟨-, hfailed⟩
  · exact .inl (hsame.trans hbare)
  · exact .inr hfailed

end Look

namespace Session

/-- **Looks through directories end, unless a directory has no end.**  On every device with fixed
contents, whatever is on it, and after any calls: each look that a listing makes along a path takes
in at most as many slots as the partition has room for, and has returned then, unless none of the
slots of the directory ends it.  A chain that comes to the numbers 0 or 1 has two more clusters.
A look through a directory without an end, whose chain comes to a cluster again, takes in as many
slots as it may, however many these are, if no read fails. -/
theorem looks_end_unless_endless {k : Disk} (hd : FaultLog k Sound failures) {name : String}
    {granted : Bool} {d : δ} (hs : Sound d) {opened : Session δ}
    (ho : openWith name granted (.ok d) = .ok opened) (earlier : List FileTask) :
    ∃ (v : Volume) (w : Window) (x : BlockStream δ),
      (opened.askAll earlier).state = .mounted v x ∧ w.disk = k ∧
      w.firstLba = opened.partition.firstLba ∧ w.blockCount = opened.partition.blockCount ∧
      ∀ path, ∀ look ∈ v.looks path x, ∀ limit,
        (¬ look.directory.Endless v w look.stop →
          look.visits v limit ≤ w.slots + 2 * v.clusterSlots ∧
          (¬ look.directory.Stray v w → look.visits v limit ≤ w.slots) ∧
          (w.slots + 2 * v.clusterSlots < limit →
            ∀ more, look.run v (limit + more) = look.run v limit)) ∧
        (look.directory.Endless v w look.stop →
          look.directory.Circular v w ∧ (look.visits v limit = limit ∨
            failures (look.left v limit).device ≠ failures look.stream.device)) := by
  obtain ⟨rfl, hmount⟩ := openWith_ok ho
  obtain ⟨w, rfl, ⟨hfirst, hcount⟩, t, -, halike⟩ := alike_mount_partition hd hs hmount
  obtain ⟨⟨v, x, y, hx, -, hrel⟩, -⟩ := alike_askAll hd halike earlier
  refine ⟨v, w, x, hx, rfl, hfirst, hcount, fun path look hlook limit => ?_⟩
  have hlive := Volume.live_looks hd v path ⟨y, hrel⟩ look hlook
  constructor
  · intro hend
    have hle := look.visits_le hd hlive hend limit (2 * v.clusterSlots) fun _ => le_rfl
    refine ⟨hle, fun hstray => ?_, fun hlt more => ?_⟩
    · exact look.visits_le hd hlive hend limit 0 fun h => absurd h hstray
    · exact DirCursor.walk_more (Nat.lt_of_le_of_lt hle hlt) more
  · intro hend
    exact ⟨hend.circular, look.visits_eq hd hlive hend limit⟩

/-- Five blocks: a boot sector, an allocation table, a root directory with a directory `D`, and the
slots of that directory, fifteen files `F` and a file `G`.  They fill a cluster, after which the
table leads to the same cluster. -/
def circularDisk : Disk where
  image :=
    Image.zeros 2560
      |>.overlay 0 (.ofBytes [0xEB, 0x3C, 0x90, 0, 0, 0, 0, 0, 0, 0, 0,
        0, 2, 1, 1, 0, 1, 16, 0, 5, 0, 0xF8, 1, 0])
      |>.overlay 54 (.ofBytes (Bytes.ofAscii "FAT12   "))
      |>.overlay 510 (.ofBytes [0x55, 0xAA])
      |>.overlay 512 (.ofBytes [0xF8, 0xFF, 0xFF, 0x02, 0xF0, 0xFF])
      |>.overlay 1024 (.ofBytes (slotBytes "D          " 0x10 2 0))
      |>.overlay 1536 (.ofBytes ((List.replicate 15 (slotBytes "F          " 0x20 0 0)).flatten ++
        slotBytes "G          " 0x20 0 0))

/-- The volume of that disk. -/
def circularVolume : Volume :=
  ⟨BootRecord.ofBytes (circularDisk.image.slice 0 512), by decide +kernel⟩

/-- All of that disk. -/
def circularWindow : Window := ⟨circularDisk, 0, 5, by decide, by decide⟩

theorem chainAt_circular (q : Nat) :
    circularVolume.chainAt circularWindow (some 2) q = .ok (some 2) := by
  induction q with
  | zero => rfl
  | succ q ih =>
    rw [Volume.chainAt_succ ih]
    decide +kernel

theorem endless_circular :
    (Directory.chain 2).Endless circularVolume circularWindow fun _ => false := by
  refine Directory.endless_of_passes (a := 0) (b := 1) Nat.one_pos
    ((chainAt_circular 0).trans (chainAt_circular 1).symm) ?_
  decide +kernel

theorem not_stray_circular : ¬ (Directory.chain 2).Stray circularVolume circularWindow := by
  rintro ⟨q, cluster, hchain, hlow⟩
  cases (chainAt_circular q).symm.trans hchain
  omega

/-- Whether a path leads to the directory of that first cluster. -/
def leadsTo (first : Nat) (path : String) (s : Session Disk) : Bool :=
  match s.state with
  | .closed _ => false
  | .mounted v x =>
      match v.resolve path x with
      | .ok (some (.directory (.chain n))) _ => n == first
      | _ => false

theorem resolve_of_leadsTo {first : Nat} {path : String} {s : Session Disk} {v : Volume}
    {x : BlockStream Disk} (hs : s.state = .mounted v x) (h : leadsTo first path s = true) :
    ∃ x', v.resolve path x = .ok (some (.directory (.chain first))) x' := by
  unfold leadsTo at h
  rw [hs] at h
  dsimp only at h
  split at h
  · next n x' hresolve =>
    cases beq_iff_eq.mp h
    exact ⟨x', hresolve⟩
  · cases h

/-- There is room for 80 slots.  The listing of the directory takes in as many as it may, and a look
for its last file ends. -/
theorem looks_end_unless_endless_circle :
    ∃ (opened : Session Disk) (v : Volume) (w : Window) (x : BlockStream Disk),
      openWith "stick" true (.ok circularDisk) = .ok opened ∧ opened.state = .mounted v x ∧
      w.disk = circularDisk ∧ w.slots = 80 ∧
      (∃ look ∈ v.looks "/d" x, look.directory.Circular v w ∧
        ∀ limit, look.visits v limit = limit) ∧
      ∃ look ∈ v.looks "/d/g" x, look.directory.Circular v w ∧
        ∀ limit, look.visits v limit ≤ 80 := by
  have hrun : (openWith "stick" true (.ok circularDisk)).toOption.map
      (fun s => (s.partition.firstLba, s.partition.blockCount, leadsTo 2 "/d" s)) =
        some (0, 5, true) := by decide +kernel
  cases ho : openWith "stick" true (.ok circularDisk) with
  | error r =>
    rw [ho] at hrun
    cases hrun
  | ok opened =>
    rw [ho] at hrun
    obtain ⟨hfirst, hrest⟩ := Prod.mk.inj (Option.some.inj hrun)
    obtain ⟨hcount, hleads⟩ := Prod.mk.inj hrest
    obtain ⟨v, w, x, hstate, hdisk, hfirst', hcount', hlooks⟩ :=
      looks_end_unless_endless (Disk.faultLog circularDisk) rfl ho []
    have hv : v = circularVolume := by
      obtain ⟨-, hmount⟩ := openWith_ok ho
      obtain ⟨-, -, v', x', hstate', hrecord⟩ :=
        mount_fixed (Disk.faultLog circularDisk).toFixedContents rfl hmount
      cases hstate.symm.trans hstate'
      rw [hfirst, Nat.zero_mul] at hrecord
      obtain ⟨record, hsound⟩ := v
      obtain rfl : record = circularVolume.record := hrecord
      rfl
    have hw : w = circularWindow := by
      obtain ⟨disk, firstLba, blockCount, hpos, hinside⟩ := w
      obtain rfl : disk = circularDisk := hdisk
      obtain rfl : firstLba = 0 := hfirst'.trans hfirst
      obtain rfl : blockCount = 5 := hcount'.trans hcount
      rfl
    subst hv hw
    have hslots : circularWindow.slots = 80 := by decide
    obtain ⟨x', hresolve⟩ := resolve_of_leadsTo hstate hleads
    have hlist : ⟨.chain 2, fun _ => false, x'⟩ ∈ circularVolume.looks "/d" x := by
      refine List.mem_append_right _ ?_
      rw [hresolve]
      exact List.mem_singleton_self _
    have hlookup : ⟨.chain 2, DirEntry.answersTo "g", x'⟩ ∈ circularVolume.looks "/d/g" x := by
      refine List.mem_append_left _ ?_
      have hpath : Path.components "/d/g" = Path.components "/d" ++ ["g"] := by decide
      rw [hpath]
      exact Volume.mem_looksFrom hresolve "g"
    have hend : ¬ (Directory.chain 2).Endless circularVolume circularWindow
        (DirEntry.answersTo "g") := fun h => absurd (h 15) (by decide +kernel)
    have hcircular := ((hlooks "/d" _ hlist 0).2 endless_circular).1
    refine ⟨opened, _, _, x, rfl, hstate, rfl, hslots, ⟨_, hlist, hcircular, fun limit => ?_⟩,
      ⟨_, hlookup, hcircular, fun limit => ?_⟩⟩
    · rcases ((hlooks "/d" _ hlist limit).2 endless_circular).2 with hall | hfailed
      · exact hall
      · exact absurd rfl hfailed
    · rw [← hslots]
      exact ((hlooks "/d/g" _ hlookup limit).1 hend).2.1 not_stray_circular

end Session
end ThumbDrive
