import ThumbDrive.Config
import ThumbDrive.Error
import ThumbDrive.Proofs.RoundTrip
import ThumbDrive.Usb

/-! # Records and their texts

What is written as a JSON object can be told from the text: the text of a failure determines the
failure, the text of a device's description is read back as that description, and the text of a
configuration, given to a plug-in as its part of the settings, leads to the same configuration.

All rest on the round trip of values.  A record whose fields are written in their order, each once,
is read from the text as the list of its values (`Document.record?_keys`); what is left is to read
each value.  Two causes of failure are only a message, and have no field for it: there the technical
message must be taken apart again.  A configuration is read as a record of another type, so names,
numbers and strategies have to be spelled alike in both; and no configuration that was made from
settings is changed by being resolved once more. -/
namespace ThumbDrive

namespace Json

theorem nat_inj {m n : Nat} : nat m = nat n ↔ m = n := by
  refine ⟨fun h => ?_, congrArg nat⟩
  injection h with h
  injection h with h
  exact Int.ofNat.inj h

theorem whole_nat (n : Nat) : Whole (nat n) := .int n

theorem natBelow?_nat {n bound : Nat} (h : n < bound) : (nat n).natBelow? bound = some n :=
  if_pos h

theorem uint16?_nat (n : UInt16) : (nat n.toNat).uint16? = some n := by
  unfold uint16?
  rw [natBelow?_nat n.toNat_lt]
  exact congrArg some UInt16.ofNat_toNat

theorem uint64?_nat (n : UInt64) : (nat n.toNat).uint64? = some n := by
  unfold uint64?
  rw [natBelow?_nat n.toNat_lt]
  exact congrArg some UInt64.ofNat_toNat

/-- A text that may be absent is read back: none is written as null, and null is no text. -/
theorem optional?_ofOption_str (s : Option String) : (ofOption str s).optional? str? = some s := by
  cases s <;> rfl

theorem whole_ofOption_str (s : Option String) : Whole (ofOption str s) := by
  cases s with
  | none => exact .null
  | some s => exact .str s

theorem field?_eq_none_iff {key : String} {fields : List (String × Json)} :
    field? key fields = none ↔ ∀ f ∈ fields, f.1 ≠ key := by
  induction fields with
  | nil => simp [field?]
  | cons f fs ih =>
    obtain ⟨k, v⟩ := f
    simp [field?, ih, and_comm]

/-- Under a name that stands once is the value written with it. -/
theorem field?_of_mem {fields : List (String × Json)} (hnodup : (fields.map Prod.fst).Nodup)
    {f : String × Json} (hf : f ∈ fields) : field? f.1 fields = some f.2 := by
  induction fields with
  | nil => cases hf
  | cons g fs ih =>
    obtain ⟨hfresh, hrest⟩ := List.nodup_cons.mp hnodup
    rw [field?]
    rcases List.mem_cons.mp hf with rfl | hlater
    · have hnone : field? f.1 fs = none := by
        refine field?_eq_none_iff.mpr fun g hg hsame => hfresh ?_
        exact hsame ▸ List.mem_map_of_mem hg
      rw [hnone, if_pos rfl, Option.none_or]
    · rw [ih hrest hlater, Option.some_or]

/-- **A text determines its value.** -/
theorem render_inj {j k : Json} (hj : Whole j) (hk : Whole k) : j.render = k.render ↔ j = k := by
  refine ⟨fun h => ?_, congrArg render⟩
  have hparse := parse?_render hj
  rw [h, parse?_render hk] at hparse
  exact (Option.some.inj hparse).symm

namespace Document

theorem mapM_keys (fields : List (String × Json)) :
    ((ofFields fields).mapM fun (k, d) => k.map fun k => (k, d)) =
      some (fields.map fun f => (f.1, ofJson f.2)) := by
  induction fields with
  | nil => rfl
  | cons f fs ih => simp [ofFields, ih]

theorem mapM_values (fields : List (String × Json)) :
    ((fields.map fun f => (f.1, ofJson f.2)).mapM fun (k, d) => d.value?.map fun v => (k, v)) =
      some fields := by
  induction fields with
  | nil => rfl
  | cons f fs ih => simp [value?_ofJson, ih]

/-- **A record is read from a text as from its value**, if every field is a known one and stands
once. -/
theorem record?_ofJson {names : List String} {fields : List (String × Json)}
    (hknown : ∀ f ∈ fields, f.1 ∈ names) (hnodup : (fields.map Prod.fst).Nodup) :
    (ofJson (.obj fields)).record? names = Json.record? names (.obj fields) := by
  have hfilter : (fields.map fun f => (f.1, ofJson f.2)).filter (fun (k, _) => names.contains k) =
      fields.map fun f => (f.1, ofJson f.2) := by
    rw [List.filter_eq_self]
    intro f hf
    obtain ⟨g, hg, rfl⟩ := List.mem_map.mp hf
    exact List.contains_iff_mem.mpr (hknown g hg)
  have hkeys : (fields.map fun f => (f.1, ofJson f.2)).map Prod.fst = fields.map Prod.fst := by
    rw [List.map_map]
    rfl
  simp only [ofJson, record?, mapM_keys, Option.bind_eq_bind, Option.bind_some, hfilter, hkeys,
    if_pos hnodup, mapM_values]

/-- **A record that has all its fields, each once and in their order, is read as their values.** -/
theorem record?_keys {fields : List (String × Json)} (hnodup : (fields.map Prod.fst).Nodup) :
    (ofJson (.obj fields)).record? (fields.map Prod.fst) = some (fields.map Prod.snd) := by
  rw [record?_ofJson (fun f hf => List.mem_map_of_mem hf) hnodup, Json.record?, List.map_map]
  refine congrArg some (List.map_congr_left fun f hf => ?_)
  rw [Function.comp_apply, field?_of_mem hnodup hf, Option.getD_some]

end Document
end Json

/-! ## Failures -/

namespace StorageError

theorem whole_toJson (e : StorageError) : e.toJson.Whole := by
  refine .obj ?_
  cases e <;> simp [details, Json.Whole.str, Json.whole_nat]

/-- No name stands twice in the form of a failure. -/
theorem nodup_keys (e : StorageError) :
    (("type", Json.str e.kind) :: (e.details ++ [("message", .str e.message)])).map Prod.fst
      |>.Nodup := by
  cases e <;> simp [details]

/-- **The form of a failure determines it**: the tag its cause, and the fields and the technical
message all that the cause carries. -/
theorem toJson_inj {e e' : StorageError} : e.toJson = e'.toJson ↔ e = e' := by
  refine ⟨fun h => ?_, congrArg toJson⟩
  obtain ⟨hkind, hdetails, hmessage⟩ :
      e.kind = e'.kind ∧ e.details = e'.details ∧ e.message = e'.message := by
    unfold toJson at h
    injection h with h
    obtain ⟨hkind, hrest⟩ := List.cons.inj h
    obtain ⟨hdetails, hlast⟩ := List.append_inj' hrest rfl
    exact ⟨by simpa using hkind, hdetails, by simpa using hlast⟩
  cases e with
  | deviceNotFound v p =>
    cases e' with
    | deviceNotFound v' p' =>
      have hids : v = v' ∧ p = p' := by
        simpa [details, Json.nat_inj, UInt16.toNat_inj] using hdetails
      rw [hids.1, hids.2]
    | _ => simp [kind] at hkind
  | permissionDenied name =>
    cases e' with
    | permissionDenied name' => rw [show name = name' by simpa [details] using hdetails]
    | _ => simp [kind] at hkind
  | timedOut name ms =>
    cases e' with
    | timedOut name' ms' =>
      have hwait : name = name' ∧ ms = ms' := by
        simpa [details, Json.nat_inj, UInt64.toNat_inj] using hdetails
      rw [hwait.1, hwait.2]
    | _ => simp [kind] at hkind
  | noPartition name =>
    cases e' with
    | noPartition name' => rw [show name = name' by simpa [details] using hdetails]
    | _ => simp [kind] at hkind
  | notFound path =>
    cases e' with
    | notFound path' => rw [show path = path' by simpa [details] using hdetails]
    | _ => simp [kind] at hkind
  | notADirectory path =>
    cases e' with
    | notADirectory path' => rw [show path = path' by simpa [details] using hdetails]
    | _ => simp [kind] at hkind
  | isADirectory path =>
    cases e' with
    | isADirectory path' => rw [show path = path' by simpa [details] using hdetails]
    | _ => simp [kind] at hkind
  | ioFailure text =>
    cases e' with
    | ioFailure text' => rw [(String.append_right_inj "I/O failure: ").mp hmessage]
    | _ => simp [kind] at hkind
  | invalidArgument text =>
    cases e' with
    | invalidArgument text' => exact congrArg invalidArgument hmessage
    | _ => simp [kind] at hkind

/-- **The text of a failure tells which failure it is.**  It is one JSON object in which no name
stands twice, and it begins with the tag and ends with the technical message. -/
theorem told_by_text (e e' : StorageError) :
    (e.toJson.render = e'.toJson.render ↔ e = e') ∧
    ∃ fields, Json.parse? e.toJson.render = some (.obj fields) ∧
      (fields.map Prod.fst).Nodup ∧
      fields.head? = some ("type", .str e.kind) ∧
      fields.getLast? = some ("message", .str e.message) := by
  refine ⟨(Json.render_inj e.whole_toJson e'.whole_toJson).trans toJson_inj, ?_⟩
  refine ⟨_, Json.parse?_render e.whole_toJson, e.nodup_keys, rfl, ?_⟩
  rw [← List.cons_append, List.getLast?_concat]

end StorageError

/-! ## Descriptions of devices -/

namespace DeviceInfo

theorem whole_toJson (d : DeviceInfo) : d.toJson.Whole := by
  refine .obj ?_
  simp [Json.Whole.str, Json.whole_nat, Json.whole_ofOption_str]

/-- **A description is read back from its text**, whatever its names are made of, and whether or not
the device has told its maker and its product. -/
theorem recovered_from_text (d : DeviceInfo) : parse? d.toJson.render = some d := by
  have hrecord : (Json.Document.ofJson d.toJson).record? fieldNames =
      some [.str d.deviceName, .ofOption .str d.manufacturerName, .ofOption .str d.productName,
        .nat d.vendorId.toNat, .nat d.productId.toNat] := by
    unfold toJson
    exact Json.Document.record?_keys (by simp)
  have hname : (Json.str d.deviceName).str? = some d.deviceName := rfl
  unfold parse?
  rw [Json.Document.parse?_render d.whole_toJson]
  simp only [Option.bind_eq_bind, Option.bind_some, hrecord, ofFields?, hname,
    Json.optional?_ofOption_str, Json.uint16?_nat]
  rfl

end DeviceInfo

/-! ## Configurations -/

/-- Whatever is set, there is time between two polls. -/
theorem Config.resolve_pollMs_pos (env : Environment) (plugin : PluginConfig) :
    0 < (resolve env plugin).pollMs := by
  unfold resolve
  dsimp only
  generalize (env.poll.bind Decimal.readUInt64?).or plugin.pollMs = set
  cases hset : set.filter (0 < ·) with
  | none => decide
  | some p => exact of_decide_eq_true (Option.filter_eq_some_iff.mp hset).2

theorem WaitStrategy.ofJson?_name (s : WaitStrategy) : ofJson? (.str s.name) = some s := by
  cases s <;> rfl

namespace Config

theorem whole_toJson (c : Config) : c.toJson.Whole := by
  refine .obj ?_
  simp [Json.Whole.str, Json.whole_nat]

/-- A configuration is read as one in which everything is set. -/
theorem parse?_render (c : Config) :
    PluginConfig.parse? c.toJson.render =
      some ⟨some c.timeoutMs, some c.pollMs, some c.strategy⟩ := by
  have hrecord : (Json.Document.ofJson c.toJson).record? PluginConfig.fieldNames =
      some [.nat c.timeoutMs.toNat, .nat c.pollMs.toNat, .str c.strategy.name] := by
    unfold toJson
    exact Json.Document.record?_keys (by simp)
  have hnumber : ∀ n : UInt64, (Json.nat n.toNat).optional? Json.uint64? = some (some n) :=
    fun n => congrArg (Option.map some) (Json.uint64?_nat n)
  have hstrategy : (Json.str c.strategy.name).optional? WaitStrategy.ofJson? =
      some (some c.strategy) := congrArg (Option.map some) (WaitStrategy.ofJson?_name c.strategy)
  unfold PluginConfig.parse?
  rw [Json.Document.parse?_render c.whole_toJson]
  simp only [Option.bind_eq_bind, Option.bind_some, hrecord, PluginConfig.ofFields?, hnumber,
    hstrategy]
  rfl

/-- Nothing changes if everything is set, and there is time between two polls. -/
theorem resolve_all_set {c : Config} (h : 0 < c.pollMs) :
    resolve {} ⟨some c.timeoutMs, some c.pollMs, some c.strategy⟩ = c := by
  have hpoll : (some c.pollMs).filter (0 < ·) = some c.pollMs := if_pos (decide_eq_true h)
  simp only [resolve, Option.bind_none, Option.none_or, hpoll, Option.getD_some]

/-- **A configuration is stable under reload.**  Whatever the environment and the plug-in set: the
text of the configuration in force, read as the plug-in's part of the settings and resolved in an
environment that sets nothing, gives that configuration again. -/
theorem resolve_reloaded (env : Environment) (plugin : Option PluginConfig) :
    let c := resolve env (plugin.getD {})
    (PluginConfig.parse? c.toJson.render).map (resolve {}) = some c := by
  intro c
  rw [parse?_render]
  exact congrArg some (resolve_all_set (resolve_pollMs_pos env (plugin.getD {})))

end Config
end ThumbDrive
