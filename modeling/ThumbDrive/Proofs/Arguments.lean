import ThumbDrive.Proofs.Answers
import ThumbDrive.Proofs.Records

/-! # Which arguments are understood

Arguments come as any JSON value.  What an operation makes of them is the outcome of several rules:
a record is an object or an array, fields that are missing count as null, other fields do not
matter, an id is an integer of 16 bits, and whatever cannot be read counts as missing.  Together
they come to a small grammar: the values of the fields by name or in their order (`Gives`), ids from
0 to 65535 (`IsId`), and a path that is a string.

A call with arguments of any other form is over at once, with the complaint of its operation, and
asks nothing of the machine.  A call that was understood never ends in such a complaint. -/
namespace ThumbDrive

namespace Json

/-! ## Fields -/

/-- The value that an object has under a key: that of the last field with it. -/
def Holds (key : String) (v : Json) (fields : List (String × Json)) : Prop :=
  ∃ before later, fields = before ++ (key, v) :: later ∧ ∀ f ∈ later, f.1 ≠ key

theorem field?_eq_some_iff {key : String} {v : Json} {fields : List (String × Json)} :
    field? key fields = some v ↔ Holds key v fields := by
  induction fields with
  | nil => simp [field?, Holds]
  | cons f fs ih =>
    obtain ⟨k, w⟩ := f
    constructor
    · intro h
      cases hlater : field? key fs with
      | some u =>
        rw [field?, hlater] at h
        cases h
        obtain ⟨before, later, rfl, hnone⟩ := ih.mp hlater
        exact ⟨(k, w) :: before, later, rfl, hnone⟩
      | none =>
        rw [field?, hlater, Option.none_or] at h
        split at h <;> cases h
        next hk =>
          subst hk
          exact ⟨[], fs, rfl, field?_eq_none_iff.mp hlater⟩
    · rintro ⟨before, later, heq, hnone⟩
      cases before with
      | nil =>
        cases heq
        rw [field?, field?_eq_none_iff.mpr hnone, if_pos rfl]
        rfl
      | cons f before =>
        cases heq
        rw [field?, ih.mpr ⟨before, later, rfl, hnone⟩]
        rfl

/-- **A record with these fields**: an object that has the values under the names, whatever else it
has, or the array of the values. -/
inductive Gives (names : List String) (values : List Json) : Json → Prop where
  | object {fields : List (String × Json)} (hlength : values.length = names.length)
      (h : ∀ f ∈ names.zip values, Holds f.1 f.2 fields) : Gives names values (.obj fields)
  | array (hlength : values.length = names.length) : Gives names values (.arr values)

/-- Where no value is null, the values of the fields are those that the record gives. -/
theorem record?_eq_some_iff {names : List String} {values : List Json} (hnull : .null ∉ values)
    (j : Json) : j.record? names = some values ↔ Gives names values j := by
  have hfields : ∀ fields : List (String × Json),
      (names.map fun name => (field? name fields).getD .null) = values ↔
        values.length = names.length ∧ ∀ f ∈ names.zip values, Holds f.1 f.2 fields := by
    intro fields
    induction names generalizing values with
    | nil => cases values <;> simp
    | cons name names ih =>
      cases values with
      | nil => simp
      | cons v values =>
        -- a missing field counts as null, and null is not among the values
        have hv : (field? name fields).getD .null = v ↔ Holds name v fields := by
          have hne : Json.null ≠ v := fun h => hnull (h ▸ List.mem_cons_self)
          rw [← field?_eq_some_iff]
          cases field? name fields <;> simp [hne]
        have hrest := ih fun h => hnull (List.mem_cons_of_mem v h)
        rw [List.map_cons, List.cons.injEq, hv, hrest, List.zip_cons_cons, List.forall_mem_cons]
        simp [and_left_comm]
  cases j with
  | obj fields =>
    rw [record?, Option.some.injEq, hfields]
    refine ⟨fun h => .object h.1 h.2, fun h => ?_⟩
    cases h with
    | object hlength h => exact ⟨hlength, h⟩
  | arr items =>
    rw [record?]
    constructor
    · intro h
      split at h <;> cases h
      next hlength => exact .array hlength
    · intro h
      cases h with
      | array hlength => exact if_pos hlength
  | _ =>
    constructor
    · intro h
      cases h
    · intro h
      cases h

/-! ## Values -/

/-- An integer from 0 to 65535 is an id. -/
def IsId (v : UInt16) (j : Json) : Prop :=
  ∃ n : Int, 0 ≤ n ∧ n ≤ 65535 ∧ j = .num (.int n) ∧ (v.toNat : Int) = n

theorem uint16?_eq_some_iff {v : UInt16} {j : Json} : j.uint16? = some v ↔ IsId v j := by
  constructor
  · intro h
    obtain ⟨n, hn, rfl⟩ := Option.map_eq_some_iff.mp h
    unfold natBelow? at hn
    split at hn
    · next n' =>
      split at hn <;> cases hn
      next hlt =>
        have hle : (n : Int) ≤ 65535 := Int.ofNat_le.mpr (Nat.le_of_lt_succ hlt)
        refine ⟨n, Int.natCast_nonneg n, hle, rfl, ?_⟩
        exact congrArg Int.ofNat (UInt16.toNat_ofNat_of_lt hlt)
    · cases hn
  · rintro ⟨n, -, -, rfl, rfl⟩
    exact uint16?_nat v

theorem IsId.ne_null {v : UInt16} {j : Json} (h : IsId v j) : .null ≠ j := by
  obtain ⟨n, -, -, rfl, -⟩ := h
  exact nofun

theorem str?_eq_some_iff {s : String} {j : Json} : j.str? = some s ↔ j = .str s := by
  cases j <;> simp [str?]

end Json

namespace Method

/-! ## The grammar of arguments -/

/-- **Arguments about a device**: its two ids. -/
def NamesDevice (v p : UInt16) (args : Json) : Prop :=
  ∃ vendorId productId, Json.Gives ["vendorId", "productId"] [vendorId, productId] args ∧
    vendorId.IsId v ∧ productId.IsId p

/-- **Arguments about a path on a device**: its two ids, and a string. -/
def NamesPath (v p : UInt16) (path : String) (args : Json) : Prop :=
  ∃ vendorId productId,
    Json.Gives ["vendorId", "productId", "path"] [vendorId, productId, .str path] args ∧
      vendorId.IsId v ∧ productId.IsId p

theorem ids?_eq_some_iff {v p : UInt16} {args : Json} :
    ids? args = some (v, p) ↔ NamesDevice v p args := by
  constructor
  · intro h
    obtain ⟨values, hrecord, h⟩ := Option.bind_eq_some_iff.mp h
    split at h
    · next vendorId productId =>
      obtain ⟨v', hv, h⟩ := Option.bind_eq_some_iff.mp h
      obtain ⟨p', hp, h⟩ := Option.bind_eq_some_iff.mp h
      cases h
      rw [Json.uint16?_eq_some_iff] at hv hp
      have hnull : Json.null ∉ [vendorId, productId] := by simp [hv.ne_null, hp.ne_null]
      exact ⟨vendorId, productId, (Json.record?_eq_some_iff hnull args).mp hrecord, hv, hp⟩
    · cases h
  · rintro ⟨vendorId, productId, hgives, hv, hp⟩
    have hnull : Json.null ∉ [vendorId, productId] := by simp [hv.ne_null, hp.ne_null]
    rw [← Json.uint16?_eq_some_iff] at hv hp
    simp [ids?, (Json.record?_eq_some_iff hnull args).mpr hgives, hv, hp]

theorem idsAndPath?_eq_some_iff {v p : UInt16} {path : String} {args : Json} :
    idsAndPath? args = some (v, p, path) ↔ NamesPath v p path args := by
  constructor
  · intro h
    obtain ⟨values, hrecord, h⟩ := Option.bind_eq_some_iff.mp h
    split at h
    · next vendorId productId text =>
      obtain ⟨v', hv, h⟩ := Option.bind_eq_some_iff.mp h
      obtain ⟨p', hp, h⟩ := Option.bind_eq_some_iff.mp h
      obtain ⟨path', hpath, h⟩ := Option.bind_eq_some_iff.mp h
      cases h
      rw [Json.uint16?_eq_some_iff] at hv hp
      rw [Json.str?_eq_some_iff] at hpath
      subst hpath
      have hnull : Json.null ∉ [vendorId, productId, .str path] := by
        simp [hv.ne_null, hp.ne_null]
      exact ⟨vendorId, productId, (Json.record?_eq_some_iff hnull args).mp hrecord, hv, hp⟩
    · cases h
  · rintro ⟨vendorId, productId, hgives, hv, hp⟩
    have hnull : Json.null ∉ [vendorId, productId, .str path] := by simp [hv.ne_null, hp.ne_null]
    rw [← Json.uint16?_eq_some_iff] at hv hp
    simp [idsAndPath?, (Json.record?_eq_some_iff hnull args).mpr hgives, hv, hp, Json.str?]

/-- What is made of arguments about a device. -/
theorem aboutDevice_eq_ok_iff {args : Json} {task : DeviceTask} {m : Method} :
    aboutDevice args task = .ok m ↔ ∃ v p, NamesDevice v p args ∧ m = .onDevice v p task := by
  simp only [← ids?_eq_some_iff]
  unfold aboutDevice
  split
  · next v p hids =>
    constructor
    · rintro ⟨⟩
      exact ⟨v, p, hids, rfl⟩
    · rintro ⟨v', p', h, rfl⟩
      cases hids.symm.trans h
      rfl
  · next hids => simp [hids]

/-- What is made of arguments about a path. -/
theorem aboutPath_eq_ok_iff {args : Json} {task : String → FileTask} {m : Method} :
    aboutPath args task = .ok m ↔
      ∃ v p path, NamesPath v p path args ∧ m = .onDevice v p (.files (task path)) := by
  simp only [← idsAndPath?_eq_some_iff]
  unfold aboutPath
  split
  · next v p path hids =>
    constructor
    · rintro ⟨⟩
      exact ⟨v, p, path, hids, rfl⟩
    · rintro ⟨v', p', path', h, rfl⟩
      cases hids.symm.trans h
      rfl
  · next hids => simp [hids]

theorem eq_missingIds_of_aboutDevice {args : Json} {task : DeviceTask} {e : StorageError}
    (h : aboutDevice args task = .error e) : e = missingIds := by
  unfold aboutDevice at h
  split at h <;> cases h
  rfl

theorem eq_missingIdsOrPath_of_aboutPath {args : Json} {task : String → FileTask} {e : StorageError}
    (h : aboutPath args task = .error e) : e = missingIdsOrPath := by
  unfold aboutPath at h
  split at h <;> cases h
  rfl

end Method

namespace Service
variable {π : Type} [Host π] [Registry π]

/-- **How a call judges its arguments.** -/
structure Judges (s : Service π) (name : String) (args : Json) (accepted : Method → Prop)
    (complaint : String) : Prop where
  accepts : ∀ m, Method.ofCall name args = .ok m ↔ accepted m
  /-- Who gives other arguments is told so, and nothing is asked of the machine. -/
  refuses : (∀ m, ¬ accepted m) → ∀ history,
    (s.afterAll (.start name args :: history)).result? s.calls.length =
        some (.error (.invalidArgument complaint)) ∧
      s.platformCalls s.calls.length (.start name args :: history) = []
  /-- Who was understood is not told that an argument is wrong. -/
  heeds : ∀ m, accepted m → ∀ history text,
    (s.afterAll (.start name args :: history)).result? s.calls.length ≠
      some (.error (.invalidArgument text))

theorem judges_of_ofCall (s : Service π) {name : String} {args : Json} {accepted : Method → Prop}
    {complaint : String} (haccepts : ∀ m, Method.ofCall name args = .ok m ↔ accepted m)
    (hcomplains : ∀ e, Method.ofCall name args = .error e → e = .invalidArgument complaint) :
    s.Judges name args accepted complaint where
  accepts := haccepts
  refuses hnone history := by
    cases hcall : Method.ofCall name args with
    | ok m => exact absurd ((haccepts m).mp hcall) (hnone m)
    | error e =>
      obtain ⟨c, hc, hover, hcalls⟩ := refused_call s hcall history
      refine ⟨?_, hcalls⟩
      rw [← hcomplains e hcall]
      unfold result?
      rw [hc]
      simp [hover]
  heeds m hm history text hr :=
    (fits_result s ((haccepts m).mpr hm) history hr).ne_invalidArgument text rfl

/-- **Which arguments are understood.**  A question about access takes an object with the two ids,
or the array of them; a listing or a read takes an object with the two ids and a path, or the array
of the three.  Any other value is answered with the complaint of the operation, whatever the machine
and the other calls do, and nothing is asked of the machine; and no call that was understood ends in
such a complaint. -/
theorem arguments_judged (s : Service π) (args : Json) :
    s.Judges "requestPermission" args
      (fun m => ∃ v p, Method.NamesDevice v p args ∧ m = .onDevice v p .requestPermission)
      "vendorId and productId are required" ∧
    s.Judges "hasPermission" args
      (fun m => ∃ v p, Method.NamesDevice v p args ∧ m = .onDevice v p .hasPermission)
      "vendorId and productId are required" ∧
    s.Judges "readdir" args
      (fun m => ∃ v p path, Method.NamesPath v p path args ∧
        m = .onDevice v p (.files (.list path)))
      "vendorId, productId, and path are required" ∧
    s.Judges "read" args
      (fun m => ∃ v p path, Method.NamesPath v p path args ∧
        m = .onDevice v p (.files (.read path)))
      "vendorId, productId, and path are required" := by
  refine ⟨?_, ?_, ?_, ?_⟩
  · exact s.judges_of_ofCall (fun _ => Method.aboutDevice_eq_ok_iff)
      fun _ => Method.eq_missingIds_of_aboutDevice
  · exact s.judges_of_ofCall (fun _ => Method.aboutDevice_eq_ok_iff)
      fun _ => Method.eq_missingIds_of_aboutDevice
  · exact s.judges_of_ofCall (fun _ => Method.aboutPath_eq_ok_iff)
      fun _ => Method.eq_missingIdsOrPath_of_aboutPath
  · exact s.judges_of_ofCall (fun _ => Method.aboutPath_eq_ok_iff)
      fun _ => Method.eq_missingIdsOrPath_of_aboutPath

end Service
end ThumbDrive
