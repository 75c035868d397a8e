import ThumbDrive.Fat.Directory

/-! # Names in progress

A long name is collected from the slots in front of the short one, last part first.  What has been
collected depends on all slots before, also on those of a name that was dropped: where a part starts
a new name, the units in front of it are still the old ones.  But they are written over before the
name is finished.  So two names in progress are the same for all that is to come if they wait for
the same part with the same checksum, and have the same units from their last part on (`Alike`).

And whatever was collected is soon forgotten.  A part that does not start a name continues one that
has one part less to go, or drops it; so after as many slots as a name can have parts, all names in
progress that took them in are alike (`AlikeSoon`). -/
namespace ThumbDrive

namespace PendingName
variable {p q : PendingName} {s : LongSlot} {n : Nat}

/-- The units of the parts collected so far.  In front of them may stand anything. -/
def spelled (p : PendingName) : List Nat := p.units.drop (partLength * (p.index - 1))

/-- What holds of every name in progress: there is room for the parts still to come. -/
structure Roomy (p : PendingName) : Prop where
  index_le : p.index ≤ 31
  le_length : partLength * p.index ≤ p.units.length

/-- Names in progress that nothing to come can tell apart. -/
def Alike (p q : PendingName) : Prop :=
  p.index = q.index ∧ (p.index ≠ 0 → p.checksum = q.checksum ∧ p.spelled = q.spelled)

theorem Alike.rfl : Alike p p := ⟨Eq.refl _, fun _ => ⟨Eq.refl _, Eq.refl _⟩⟩

theorem roomy_empty : Roomy {} := ⟨Nat.zero_le _, Nat.le_refl _⟩

@[simp] theorem length_resize (units : List Nat) (n : Nat) : (resize units n).length = n := by
  simp only [resize, List.length_append, List.length_take, List.length_replicate]
  omega

theorem length_overwrite {units part : List Nat} {start : Nat}
    (h : start + part.length ≤ units.length) :
    (overwrite units part start).length = units.length := by
  simp only [overwrite, List.length_append, List.length_take, List.length_drop]
  omega

theorem drop_overwrite {units : List Nat} {start : Nat} (h : start ≤ units.length)
    (part : List Nat) :
    (overwrite units part start).drop start = part ++ units.drop (start + part.length) := by
  unfold overwrite
  rw [List.append_assoc]
  exact List.drop_left' (List.length_take_of_le h)

/-- The part that starts a name: what was collected before does not matter. -/
theorem absorb_start (hs : s.units.length = partLength) (hindex : s.order % 32 ≠ 0)
    (hflag : s.order / 64 % 2 = 1) (p : PendingName) :
    (p.absorb s).Roomy ∧ (p.absorb s).index = s.order % 32 ∧
      (p.absorb s).checksum = s.checksum ∧ (p.absorb s).spelled = s.units := by
  have hstart : p.absorb s = ⟨s.order % 32, s.checksum,
      overwrite (resize p.units (partLength * (s.order % 32))) s.units
        (partLength * (s.order % 32 - 1))⟩ := by
    simp only [absorb, if_neg hindex, if_pos hflag]
  have hroom : (resize p.units (partLength * (s.order % 32))).length =
      partLength * (s.order % 32 - 1) + s.units.length := by
    rw [length_resize, hs, ← Nat.mul_succ]
    congr 1
    omega
  rw [hstart]
  refine ⟨⟨?_, ?_⟩, rfl, rfl, ?_⟩
  · show s.order % 32 ≤ 31
    omega
  · show partLength * (s.order % 32) ≤ (overwrite _ s.units _).length
    refine Nat.le_of_eq ?_
    rw [length_overwrite (Nat.le_of_eq hroom.symm), length_resize]
  · show (overwrite _ s.units _).drop (partLength * (s.order % 32 - 1)) = s.units
    rw [drop_overwrite (by omega), List.drop_eq_nil_of_le (Nat.le_of_eq hroom), List.append_nil]

/-- Whether a part is the next one of a name in progress. -/
def Continues (s : LongSlot) (p : PendingName) : Prop :=
  p.index = s.order % 32 + 1 ∧ s.checksum = p.checksum

/-- A part that continues a name. -/
theorem absorb_next (hs : s.units.length = partLength) (hindex : s.order % 32 ≠ 0)
    (hflag : s.order / 64 % 2 ≠ 1) (hp : p.Roomy) (h : Continues s p) :
    (p.absorb s).Roomy ∧ (p.absorb s).index = s.order % 32 ∧
      (p.absorb s).checksum = p.checksum ∧ (p.absorb s).spelled = s.units ++ p.spelled := by
  obtain ⟨hbefore, hchecksum⟩ := h
  have hkept : ¬ (p.index = 0 ∨ s.order % 32 + 1 ≠ p.index ∨ s.checksum ≠ p.checksum) := by omega
  have hnext : p.absorb s = ⟨s.order % 32, p.checksum,
      overwrite p.units s.units (partLength * (s.order % 32 - 1))⟩ := by
    simp only [absorb, if_neg hindex, if_neg hflag, if_neg hkept]
  have hplace : partLength * (s.order % 32 - 1) + partLength = partLength * (s.order % 32) := by
    rw [← Nat.mul_succ]
    congr 1
    omega
  have hle := hp.le_length
  rw [hbefore, Nat.mul_succ] at hle
  rw [hnext]
  refine ⟨⟨?_, ?_⟩, rfl, rfl, ?_⟩
  · show s.order % 32 ≤ 31
    omega
  · show partLength * (s.order % 32) ≤ (overwrite _ s.units _).length
    rw [length_overwrite (by omega)]
    omega
  · show (overwrite p.units s.units _).drop (partLength * (s.order % 32 - 1)) =
      s.units ++ p.units.drop (partLength * (p.index - 1))
    rw [drop_overwrite (by omega), hs, hbefore, Nat.add_sub_cancel, hplace]

/-- **What a part does.**  What was collected before does not matter, or the part continues the
names of which it is the next part and drops the others. -/
theorem absorb_cases (hs : s.units.length = partLength) :
    (∀ p q : PendingName, (p.absorb s).Roomy ∧ (p.absorb s).Alike (q.absorb s)) ∨
    ∀ p : PendingName, p.Roomy →
      (Continues s p → (p.absorb s).Roomy ∧ (p.absorb s).index = s.order % 32 ∧
        (p.absorb s).checksum = p.checksum ∧ (p.absorb s).spelled = s.units ++ p.spelled) ∧
      (¬ Continues s p → p.absorb s = {}) := by
  by_cases hzero : s.order % 32 = 0
  · have hdrop : ∀ p : PendingName, p.absorb s = {} := fun p => by simp only [absorb, if_pos hzero]
    refine .inl fun p q => ?_
    rw [hdrop, hdrop]
    exact ⟨roomy_empty, Alike.rfl⟩
  · by_cases hflag : s.order / 64 % 2 = 1
    · refine .inl fun p q => ?_
      obtain ⟨hroomy, hindex, hchecksum, hspelled⟩ := absorb_start hs hzero hflag p
      obtain ⟨-, hindex', hchecksum', hspelled'⟩ := absorb_start hs hzero hflag q
      exact ⟨hroomy, hindex.trans hindex'.symm,
        fun _ => ⟨hchecksum.trans hchecksum'.symm, hspelled.trans hspelled'.symm⟩⟩
    · refine .inr fun p hp => ⟨absorb_next hs hzero hflag hp, fun hnot => ?_⟩
      have hdropped : p.index = 0 ∨ s.order % 32 + 1 ≠ p.index ∨ s.checksum ≠ p.checksum := by
        unfold Continues at hnot
        omega
      simp only [absorb, if_neg hzero, if_neg hflag, if_pos hdropped]

theorem roomy_absorb (hp : p.Roomy) (hs : s.units.length = partLength) : (p.absorb s).Roomy := by
  rcases absorb_cases hs with hany | hnext
  · exact (hany p p).1
  · by_cases hcontinues : Continues s p
    · exact ((hnext p hp).1 hcontinues).1
    · rw [(hnext p hp).2 hcontinues]
      exact roomy_empty

/-- Names that are alike stay alike. -/
theorem Alike.absorb (h : Alike p q) (hp : p.Roomy) (hq : q.Roomy)
    (hs : s.units.length = partLength) : Alike (p.absorb s) (q.absorb s) := by
  obtain ⟨hsame, hrest⟩ := h
  rcases absorb_cases hs with hany | hnext
  · exact (hany p q).2
  · by_cases hcontinues : Continues s p
    · obtain ⟨hbefore, hc⟩ := hcontinues
      obtain ⟨hchecksums, hunits⟩ := hrest (by omega)
      obtain ⟨-, hindex, hchecksum, hspelled⟩ := (hnext p hp).1 ⟨hbefore, hc⟩
      obtain ⟨-, hindex', hchecksum', hspelled'⟩ :=
        (hnext q hq).1 ⟨hsame.symm.trans hbefore, hc.trans hchecksums⟩
      refine ⟨hindex.trans hindex'.symm, fun _ => ⟨?_, ?_⟩⟩
      · rw [hchecksum, hchecksum', hchecksums]
      · rw [hspelled, hspelled', hunits]
    · have hnot : ¬ Continues s q := by
        rintro ⟨hbefore, hc⟩
        obtain ⟨hchecksums, -⟩ := hrest (by omega)
        exact hcontinues ⟨hsame.trans hbefore, hc.trans hchecksums.symm⟩
      rw [(hnext p hp).2 hcontinues, (hnext q hq).2 hnot]
      exact Alike.rfl

/-- Names in progress that are alike after `n` more slots, whatever is in them. -/
def AlikeSoon (n : Nat) (p q : PendingName) : Prop := Alike p q ∨ p.index ≤ n ∧ q.index ≤ n

theorem AlikeSoon.alike (h : AlikeSoon 0 p q) : Alike p q := by
  rcases h with h | ⟨hp, hq⟩
  · exact h
  · exact ⟨by omega, fun hne => absurd (Nat.le_zero.mp hp) hne⟩

/-- A part makes names alike, or they have fewer parts to go. -/
theorem AlikeSoon.absorb (h : AlikeSoon n p q) (hp : p.Roomy) (hq : q.Roomy)
    (hs : s.units.length = partLength) : AlikeSoon (n - 1) (p.absorb s) (q.absorb s) := by
  rcases h with h | ⟨hpn, hqn⟩
  · exact .inl (h.absorb hp hq hs)
  · rcases absorb_cases hs with hany | hnext
    · exact .inl (hany p q).2
    · have hlower : ∀ r : PendingName, r.Roomy → r.index ≤ n → (r.absorb s).index ≤ n - 1 := by
        intro r hr hrn
        by_cases hcontinues : Continues s r
        · obtain ⟨-, hindex, -⟩ := (hnext r hr).1 hcontinues
          have hbefore := hcontinues.1
          omega
        · rw [(hnext r hr).2 hcontinues]
          exact Nat.zero_le _
      exact .inr ⟨hlower p hp hpn, hlower q hq hqn⟩

/-- Names that are alike are finished alike. -/
theorem Alike.finish (h : Alike p q) (name : ShortName) : p.finish name = q.finish name := by
  obtain ⟨hsame, hrest⟩ := h
  unfold PendingName.finish
  by_cases hone : p.index = 1
  · obtain ⟨hchecksums, hunits⟩ := hrest (by omega)
    have hall : p.units = q.units := by
      unfold spelled at hunits
      rw [← hsame, hone] at hunits
      exact hunits
    rw [← hsame, hchecksums, hall]
  · rw [if_neg (fun h => hone h.1), if_neg (fun h => hone (hsame.trans h.1))]

end PendingName

/-! ## Slots -/

namespace Slot

theorem length_units (b : Bytes) : (units b).length = b.length / 2 := by
  induction b using units.induct with
  | case1 x y rest ih =>
    rw [units, List.length_cons, ih, List.length_cons, List.length_cons]
    omega
  | case2 b hshort =>
    rcases b with _ | ⟨x, _ | ⟨y, rest⟩⟩
    · rfl
    · simp only [units, List.length_nil, List.length_singleton]
    · exact absurd rfl (hshort x y rest)

/-- A slot as it comes from a disk: a part of a long name has all its units. -/
def Whole : Slot → Prop
  | .long s => s.units.length = PendingName.partLength
  | .short _ => True

theorem whole_ofBytes {b : Bytes} (h : b.length = size) : (ofBytes b).Whole := by
  have hsize : size = 32 := rfl
  unfold ofBytes
  dsimp only
  split
  · show (units _).length = 13
    rw [length_units, List.length_append, List.length_append, Bytes.length_slice (by omega),
      Bytes.length_slice (by omega), Bytes.length_slice (by omega)]
  · trivial

end Slot

namespace DirCursor
variable {p q : PendingName} {slot : Slot} {n : Nat}

theorem roomy_absorb (hp : p.Roomy) (h : slot.Whole) : (absorb p slot).2.Roomy := by
  cases slot with
  | long s =>
    dsimp only [absorb]
    split
    · exact PendingName.roomy_empty
    · exact p.roomy_absorb hp h
  | short s =>
    dsimp only [absorb]
    split <;> exact PendingName.roomy_empty

theorem alikeSoon_absorb (h : PendingName.AlikeSoon n p q) (hp : p.Roomy) (hq : q.Roomy)
    (hslot : slot.Whole) :
    PendingName.AlikeSoon (n - 1) (absorb p slot).2 (absorb q slot).2 := by
  cases slot with
  | long s =>
    dsimp only [absorb]
    split
    · exact .inl PendingName.Alike.rfl
    · exact h.absorb hp hq hslot
  | short s =>
    dsimp only [absorb]
    split <;> exact .inl PendingName.Alike.rfl

/-- A slot completes the same entry. -/
theorem entry_absorb (h : PendingName.Alike p q) : (absorb p slot).1 = (absorb q slot).1 := by
  cases slot with
  | long s =>
    dsimp only [absorb]
    split <;> rfl
  | short s =>
    dsimp only [absorb]
    split
    · rfl
    · rw [h.finish]

end DirCursor
end ThumbDrive
