import ThumbDrive.Host.Machine
import ThumbDrive.Proofs.Leavings
import ThumbDrive.Proofs.Rest

/-! # Which device is opened

Access is granted by name, and several devices may have one name.  The question whether access is
granted is answered by any device of the name; what is opened is the first one.  The two agree
because a device never gets in front of an older one of its name, and what is granted or revoked is
so for all of them: under each name, the devices that are granted come first (`Ordered`).

A worker asks first and opens later, in steps between which everything may happen.  So a device that
is opened was granted when its worker asked; and it is granted still, unless somebody has unplugged
or revoked the name since (`Act.Withdraws`).  Nothing that a service does by itself takes a grant
back (`Grows`).  But a worker does not notice that a grant is revoked between its two steps, and a
service that asks another registry than the bus sees nothing of the grants on the bus.  Then devices
are opened that are not granted (`opened_without_grant`).

The schedule lets nothing happen to the bus before all calls have come to rest, so under it no
worker is interrupted there (`Paced`), and every device that is opened is granted. -/
namespace ThumbDrive

namespace BusDevice

/-- The name of a device, by which access to it is granted. -/
def name (x : BusDevice) : String := x.attached.info.deviceName

/-- What comes of opening a device. -/
def opening (x : BusDevice) : Except IoError Medium :=
  match x.disk with
  | none => .error ⟨.unsupported, "not a mass storage device"⟩
  | some (.memory image) => .ok (.memory image)
  | some (.file image) => .ok (.file image)
  | some .missing => .error ⟨.notFound, "No such file or directory (os error 2)"⟩
  | some (.unreadable n) => .ok (.unreadable n)

end BusDevice

namespace Bus

/-! ## Grants by name -/

/-- The first device of a name. -/
def first? (b : Bus) (name : String) : Option BusDevice := b.devices.find? fun x => x.name == name

/-- Whether a name is granted: some device of the name is. -/
def grants (b : Bus) (name : String) : Bool := b.devices.any fun x => x.name == name && x.granted

/-- What is opened is the first device of the name. -/
theorem first_of_openDevice {b : Bus} {d : DeviceInfo} {m : Medium}
    (h : (b.openDevice d).1 = .ok m) :
    ∃ x, b.first? d.deviceName = some x ∧ x.opening = .ok m := by
  have hdisk : b.diskOf d = .ok m := by
    unfold openDevice at h
    cases hd : b.diskOf d with
    | error e =>
      rw [hd] at h
      cases h
    | ok m' =>
      rw [hd] at h
      exact h
  have hfirst : b.first? d.deviceName =
      b.devices.find? fun x => x.attached.info.deviceName == d.deviceName := rfl
  unfold diskOf at hdisk
  rw [← hfirst] at hdisk
  cases hx : b.first? d.deviceName with
  | none =>
    rw [hx] at hdisk
    cases hdisk
  | some x =>
    rw [hx] at hdisk
    exact ⟨x, rfl, hdisk⟩

/-- Under each name, no device is granted that comes after one that is not. -/
def Ordered (b : Bus) : Prop :=
  b.devices.Pairwise fun x y => x.name = y.name → y.granted = true → x.granted = true

/-- **Where the devices are in order, a name is granted if its first device is.** -/
theorem Ordered.grants_iff {b : Bus} (h : b.Ordered) (name : String) :
    b.grants name = true ↔ ∃ x, b.first? name = some x ∧ x.granted = true := by
  unfold Ordered at h
  unfold grants first?
  generalize b.devices = devices at h ⊢
  induction devices with
  | nil => simp
  | cons x devices ih =>
    obtain ⟨hfirst, hrest⟩ := List.pairwise_cons.mp h
    rw [List.any_cons, List.find?_cons]
    by_cases hname : x.name = name
    · have hbeq : (x.name == name) = true := beq_iff_eq.mpr hname
      simp only [hbeq, Bool.true_and, Bool.or_eq_true, Option.some.injEq, exists_eq_left']
      constructor
      · rintro (hx | hlater)
        · exact hx
        · obtain ⟨y, hy, hgranted⟩ := List.any_eq_true.mp hlater
          rw [Bool.and_eq_true, beq_iff_eq] at hgranted
          exact hfirst y hy (hname.trans hgranted.1.symm) hgranted.2
      · exact .inl
    · have hbeq : (x.name == name) = false := beq_eq_false_iff_ne.mpr hname
      simp only [hbeq, Bool.false_and, Bool.false_or]
      exact ih hrest

/-! ## What is done to the devices -/

theorem ordered_append {b b' : Bus} (h : b.Ordered) {x : BusDevice} (hx : x.granted = false)
    (hb : b'.devices = b.devices ++ [x]) : b'.Ordered := by
  unfold Ordered at *
  rw [hb, List.pairwise_append]
  refine ⟨h, List.pairwise_singleton _ _, ?_⟩
  intro y _ z hz _ hgranted
  rw [List.mem_singleton.mp hz, hx] at hgranted
  cases hgranted

theorem ordered_detach {b : Bus} (h : b.Ordered) (name : String) : (b.detach name).Ordered :=
  List.Pairwise.filter _ h

/-- All devices of the name are treated alike. -/
theorem ordered_setGranted {b : Bus} (h : b.Ordered) (name : String) (granted : Bool) :
    (b.setGranted name granted).Ordered := by
  unfold Ordered setGranted
  rw [List.pairwise_map]
  refine List.Pairwise.imp ?_ h
  intro x y hxy hname hgranted
  by_cases hx : x.attached.info.deviceName = name
  · by_cases hy : y.attached.info.deviceName = name
    · simp only [hx, hy, BEq.rfl, if_true] at hgranted ⊢
      exact hgranted
    · have hne : (y.attached.info.deviceName == name) = false := beq_eq_false_iff_ne.mpr hy
      simp only [BusDevice.name, hx, hne, BEq.rfl, if_true, Bool.false_eq_true, if_false] at hname
      exact absurd hname.symm hy
  · have hne : (x.attached.info.deviceName == name) = false := beq_eq_false_iff_ne.mpr hx
    by_cases hy : y.attached.info.deviceName = name
    · simp only [BusDevice.name, hy, hne, BEq.rfl, if_true, Bool.false_eq_true, if_false] at hname
      exact absurd hname hx
    · have hne' : (y.attached.info.deviceName == name) = false := beq_eq_false_iff_ne.mpr hy
      simp only [hne, hne', Bool.false_eq_true, if_false] at hname hgranted ⊢
      exact hxy hname hgranted

theorem grants_setGranted {b : Bus} {name other : String} {granted : Bool}
    (h : b.grants name = true) (hkept : other = name → granted = true) :
    (b.setGranted other granted).grants name = true := by
  obtain ⟨x, hx, hname⟩ := List.any_eq_true.mp h
  rw [Bool.and_eq_true, beq_iff_eq] at hname
  refine List.any_eq_true.mpr ⟨_, List.mem_map_of_mem hx, ?_⟩
  by_cases hother : x.attached.info.deviceName = other
  · have hgranted : granted = true := hkept (hother.symm.trans hname.1)
    simp only [hother, BEq.rfl, if_true, hgranted, Bool.and_true, beq_iff_eq]
    exact hname.1
  · have hne : (x.attached.info.deviceName == other) = false := beq_eq_false_iff_ne.mpr hother
    simp only [hne, Bool.false_eq_true, if_false, Bool.and_eq_true, beq_iff_eq]
    exact hname

theorem grants_append {b b' : Bus} {name : String} (h : b.grants name = true) {x : BusDevice}
    (hb : b'.devices = b.devices ++ [x]) : b'.grants name = true := by
  unfold grants at *
  rw [hb, List.any_append, h, Bool.true_or]

theorem grants_detach {b : Bus} {name other : String} (h : b.grants name = true)
    (hother : other ≠ name) : (b.detach other).grants name = true := by
  obtain ⟨x, hx, hname⟩ := List.any_eq_true.mp h
  refine List.any_eq_true.mpr ⟨x, List.mem_filter.mpr ⟨hx, ?_⟩, hname⟩
  rw [Bool.and_eq_true, beq_iff_eq] at hname
  exact bne_iff_ne.mpr fun hsame => hother (hsame.symm.trans hname.1)

/-- **What keeps every grant**, the order of the devices, and the number of openings. -/
structure Grows (b b' : Bus) : Prop where
  ordered : b.Ordered → b'.Ordered
  grants : ∀ name, b.grants name = true → b'.grants name = true
  opens : b'.counters.opens = b.counters.opens

namespace Grows
variable {b b' b'' : Bus}

/-- The devices are the same. -/
theorem of_devices (hdevices : b'.devices = b.devices)
    (hopens : b'.counters.opens = b.counters.opens) : Grows b b' := by
  refine ⟨fun h => ?_, fun name h => ?_, hopens⟩
  · unfold Ordered at *
    rwa [hdevices]
  · unfold Bus.grants at *
    rwa [hdevices]

theorem refl (b : Bus) : Grows b b := .of_devices rfl rfl

theorem trans (h : Grows b b') (h' : Grows b' b'') : Grows b b'' :=
  ⟨fun ho => h'.ordered (h.ordered ho), fun name hg => h'.grants name (h.grants name hg),
    h'.opens.trans h.opens⟩

end Grows

/-- An answer of the user takes nothing back. -/
theorem grows_deliver (b : Bus) (q : PermissionRequest) (granted : Bool) :
    Grows b (b.deliver q granted) := by
  cases granted with
  | false => exact .of_devices rfl rfl
  | true =>
    have hgrant : Grows b (b.setGranted q.device.deviceName true) :=
      ⟨fun h => ordered_setGranted h _ true, fun _ h => grants_setGranted h fun _ => rfl, rfl⟩
    exact hgrant.trans (.of_devices rfl rfl)

theorem grows_answerPending (b : Bus) (granted : Bool) : Grows b (b.answerPending granted) := by
  have hfold : ∀ (questions : List PermissionRequest) (b : Bus),
      Grows b (questions.foldl (fun b q => b.deliver q granted) b) := by
    intro questions
    induction questions with
    | nil => exact .refl
    | cons q questions ih => exact fun b => (b.grows_deliver q granted).trans (ih _)
  have hcleared : Grows b { b with pending := [] } := .of_devices rfl rfl
  exact hcleared.trans (hfold b.pending _)

theorem grows_request (q : PermissionRequest) (b : Bus) : Grows b (b.request q).2 := by
  unfold request
  cases b.requestError with
  | some e => exact .refl b
  | none =>
    have hcounted : Grows b (b.count fun c =>
        { c with permissionRequests := c.permissionRequests + 1 }) := .of_devices rfl rfl
    refine hcounted.trans ?_
    dsimp only
    cases hresponse : (b.count _).response with
    | grant => exact grows_deliver _ q true
    | deny => exact grows_deliver _ q false
    | ignore => exact .of_devices rfl rfl

theorem grows_unregister (id : ReceiverId) (b : Bus) : Grows b (b.unregister id) := by
  unfold unregister
  split
  · exact .of_devices rfl rfl
  · exact .refl b

theorem grows_attached (b : Bus) : Grows b (Host.attached b).2 := by
  simp only [Host.attached]
  split <;> exact .of_devices rfl rfl

/-- To open a device does nothing to the devices, and counts only if it succeeds. -/
theorem devices_openDevice (d : DeviceInfo) (b : Bus) :
    (Host.openDevice d b).2.devices = b.devices ∧
      ((Host.openDevice d b).2.counters.opens ≠ b.counters.opens →
        ∃ m, (b.openDevice d).1 = .ok m) := by
  simp only [Host.openDevice]
  split
  · exact ⟨rfl, fun h => absurd rfl h⟩
  · unfold openDevice
    cases b.diskOf d with
    | error e => exact ⟨rfl, fun h => absurd rfl h⟩
    | ok m => exact ⟨rfl, fun _ => ⟨m, rfl⟩⟩

/-- What may be done to a bus from outside. -/
inductive Act where
  | attach (info : DeviceInfo) (disk : BusDisk)
  | attachOther (info : DeviceInfo) (i : Interface)
  | detach (name : String)
  | setGranted (name : String) (granted : Bool)
  /-- From now on the user answers like this. -/
  | respond (response : Response)
  /-- The user is asked. -/
  | request (q : PermissionRequest)
  /-- The user answers a question, which may be an old one. -/
  | deliver (q : PermissionRequest) (granted : Bool)
  /-- The user answers all open questions. -/
  | answer (granted : Bool)

/-- The bus after that. -/
def act (b : Bus) : Act → Bus
  | .attach info disk => b.attach info disk
  | .attachOther info i => b.attachOther info i
  | .detach name => b.detach name
  | .setGranted name granted => b.setGranted name granted
  | .respond response => { b with response }
  | .request q => (b.request q).2
  | .deliver q granted => b.deliver q granted
  | .answer granted => b.answerPending granted

/-- A name is unplugged, or access to it is revoked. -/
def Act.Withdraws (name : String) : Act → Prop
  | .detach other => other = name
  | .setGranted other granted => other = name ∧ granted = false
  | _ => False

/-- **Whatever is done to a bus keeps its devices in order.** -/
theorem ordered_act {b : Bus} (h : b.Ordered) (a : Act) : (b.act a).Ordered := by
  cases a with
  | attach info disk => exact ordered_append h rfl rfl
  | attachOther info i => exact ordered_append h rfl rfl
  | detach name => exact ordered_detach h name
  | setGranted name granted => exact ordered_setGranted h name granted
  | respond response => exact h
  | request q => exact (b.grows_request q).ordered h
  | deliver q granted => exact (b.grows_deliver q granted).ordered h
  | answer granted => exact (b.grows_answerPending granted).ordered h

/-- What is granted stays so until it is withdrawn. -/
theorem grants_act {b : Bus} {name : String} (h : b.grants name = true) {a : Act}
    (ha : ¬ a.Withdraws name) : (b.act a).grants name = true := by
  cases a with
  | attach info disk => exact grants_append h rfl
  | attachOther info i => exact grants_append h rfl
  | detach other => exact grants_detach h ha
  | setGranted other granted =>
    refine grants_setGranted h fun hsame => ?_
    cases granted with
    | true => rfl
    | false => exact absurd ⟨hsame, rfl⟩ ha
  | respond response => exact h
  | request q => exact (b.grows_request q).grants name h
  | deliver q granted => exact (b.grows_deliver q granted).grants name h
  | answer granted => exact (b.grows_answerPending granted).grants name h

theorem opens_act (b : Bus) (a : Act) : (b.act a).counters.opens = b.counters.opens := by
  cases a with
  | request q => exact (b.grows_request q).opens
  | deliver q granted => exact (b.grows_deliver q granted).opens
  | answer granted => exact (b.grows_answerPending granted).opens
  | _ => rfl

end Bus

/-! ## What a desk does to its bus -/

namespace Desk

theorem grows_check (device : DeviceInfo) (now : Nat) (w : Wait) (d : Desk Bus) :
    d.registry.Grows (check device now w d).2.registry := by
  cases w with
  | notification receiver deadline =>
    rw [check_eq]
    cases Wait.verdict? d.config.timeoutMs.toNat deadline now (d.answer? receiver) with
    | some outcome => exact Bus.grows_unregister receiver d.registry
    | none => exact .refl _
  | polling started deadline wake =>
    have hasked : ∀ {d' : Desk Bus}, d'.registry = (Registry.hasPermission device d.registry).2 →
        d.registry.Grows d'.registry := by
      intro d' hd
      rw [hd]
      exact .of_devices rfl rfl
    rw [check_polling_eq]
    dsimp only
    split
    · exact .refl _
    · split
      · exact hasked rfl
      · split <;> exact hasked rfl

theorem grows_await (device : DeviceInfo) (id : RequestId) (now deadline : Nat)
    (strategy : WaitStrategy) (d : Desk Bus) :
    d.registry.Grows (await device id now deadline strategy d).2.registry := by
  have hrequest : ∀ d : Desk Bus, d.registry.Grows (request id device d).2.registry :=
    fun d => Bus.grows_request ⟨id, device⟩ d.registry
  cases strategy with
  | event =>
    have hregister : d.registry.Grows (register id d).2.registry := .of_devices rfl rfl
    rw [await_event_eq]
    refine (hregister.trans (hrequest _)).trans ?_
    cases (request id device (register id d).2).1 with
    | ok _ => exact grows_check device now _ _
    | error e => exact Bus.grows_unregister _ _
  | poll =>
    rw [await_poll_eq]
    refine (hrequest d).trans ?_
    cases (request id device d).1 with
    | ok _ => exact grows_check device now _ _
    | error e => exact .refl _

theorem grows_ensure (device : DeviceInfo) (now : Nat) (d : Desk Bus) :
    d.registry.Grows (ensure device now d).2.registry := by
  have hasked : d.registry.Grows (Registry.hasPermission device d.registry).2 :=
    .of_devices rfl rfl
  rw [ensure_await]
  split
  · exact hasked
  · exact hasked.trans (grows_await device _ now _ _ (d.pend device))

theorem grows_abandon (w : Wait) (d : Desk Bus) : d.registry.Grows (abandon w d).2.registry := by
  cases w with
  | notification receiver deadline => exact Bus.grows_unregister receiver d.registry
  | polling started deadline wake => exact .refl _

end Desk

/-! ## What a service does to its bus -/

/-- The device that a worker has found granted, and is about to open. -/
def Phase.cleared? : Phase → Option DeviceInfo
  | .working device _ _ .permitted => some device
  | _ => none

/-- A call that is about to open a device is at work. -/
theorem Phase.toGo_of_cleared {p : Phase} {device : DeviceInfo} (h : p.cleared? = some device) :
    p.toGo = 4 := by
  unfold cleared? at h
  split at h
  · rfl
  · cases h

namespace Service

/-- The call with a device to open. -/
def Clears (s : Service Bus) (i : Nat) (device : DeviceInfo) : Prop :=
  ∃ c, s.calls[i]? = some c ∧ c.phase.cleared? = some device

/-- The call whose worker is about to ask whether a device is granted. -/
def Asks (s : Service Bus) (i : Nat) (device : DeviceInfo) : Prop :=
  ∃ c task lock, s.calls[i]? = some c ∧ c.phase = .working device task lock .starting

/-- Only the call that is put into another phase may have another device to open. -/
theorem clears_setPhase {s : Service Bus} {i j : Nat} {p : Phase} {device : DeviceInfo}
    (h : (s.setPhase j p).Clears i device) :
    s.Clears i device ∨ i = j ∧ p.cleared? = some device := by
  obtain ⟨c, hi, hc⟩ := h
  rcases modify_cases hi with ⟨rfl, c₀, -, rfl⟩ | ⟨-, hold⟩
  · exact .inr ⟨rfl, hc⟩
  · exact .inl ⟨c, hold, hc⟩

theorem clears_of_setPhase {s s' : Service Bus} {i j : Nat} {p : Phase} {device : DeviceInfo}
    (h : (s'.setPhase j p).Clears i device) (hcalls : s'.calls = s.calls)
    (hp : p.cleared? = none) : s.Clears i device := by
  rcases clears_setPhase h with ⟨c, hi, hc⟩ | ⟨-, hp'⟩
  · exact ⟨c, hcalls ▸ hi, hc⟩
  · rw [hp] at hp'
    cases hp'

theorem cleared?_phaseOf (device : DeviceInfo) (n : Negotiation) :
    (phaseOf device n).cleared? = none := by
  cases n <;> rfl

/-- To go on with a device takes no grant back, and gives no call a device to open. -/
theorem grows_proceed (s : Service Bus) (i : Nat) (task : DeviceTask) (device : DeviceInfo) :
    s.desk.registry.Grows (s.proceed i task device).desk.registry ∧
      ∀ j d, (s.proceed i task device).Clears j d → s.Clears j d := by
  cases task with
  | hasPermission =>
    exact ⟨.of_devices rfl rfl, fun j d h => clears_of_setPhase h rfl rfl⟩
  | requestPermission =>
    exact ⟨Desk.grows_ensure device s.now s.desk, fun j d h =>
      clears_of_setPhase h rfl (cleared?_phaseOf device _)⟩
  | files task =>
    obtain ⟨hcalls, hdesk⟩ := s.lockOf_frame device.deviceName
    refine ⟨?_, fun j d h => clears_of_setPhase h hcalls rfl⟩
    show s.desk.registry.Grows (s.lockOf device.deviceName).2.desk.registry
    rw [hdesk]
    exact .refl _

theorem grows_resolve (s : Service Bus) (i : Nat) (m : Method) (r : Job (List DeviceInfo)) :
    s.desk.registry.Grows (s.resolve i m r).desk.registry ∧
      ∀ j d, (s.resolve i m r).Clears j d → s.Clears j d := by
  cases r with
  | crashed message =>
    cases m <;> exact ⟨.refl _, fun j d h => clears_of_setPhase h rfl rfl⟩
  | finished devices =>
    cases m with
    | getDevices => exact ⟨.refl _, fun j d h => clears_of_setPhase h rfl rfl⟩
    | onDevice v p task =>
      simp only [resolve]
      cases Discovery.find? devices v p with
      | none => exact ⟨.refl _, fun j d h => clears_of_setPhase h rfl rfl⟩
      | some device => exact grows_proceed { s with desk := s.desk.retain devices } i task device

/-- **What a step may do about openings.**  Grants are kept, and nothing is opened, but by a call
that had a device to open; and only a call that asks and finds a device granted gets it to open. -/
structure Steps (s s' : Service Bus) (i : Nat) : Prop where
  ordered : s.desk.registry.Ordered → s'.desk.registry.Ordered
  grants : ∀ name, s.desk.registry.grants name = true → s'.desk.registry.grants name = true
  opens : s'.desk.registry.counters.opens ≠ s.desk.registry.counters.opens →
    ∃ device m, s.Clears i device ∧ (s.desk.registry.openDevice device).1 = .ok m
  clears : ∀ j device, s'.Clears j device →
    s.Clears j device ∨ j = i ∧ s.Asks i device ∧ s.desk.registry.isGranted device = true

theorem Steps.of_grows {s s' : Service Bus} {i : Nat}
    (h : s.desk.registry.Grows s'.desk.registry ∧ ∀ j d, s'.Clears j d → s.Clears j d) :
    Steps s s' i where
  ordered := h.1.ordered
  grants := h.1.grants
  opens hopens := absurd h.1.opens hopens
  clears j device hclears := .inl (h.2 j device hclears)

/-- A worker asks, opens and closes. -/
theorem steps_work {s : Service Bus} {i : Nat} {c : Call} {device : DeviceInfo} {task : FileTask}
    {lock : LockId} {w : Worker} (hi : s.calls[i]? = some c)
    (hp : c.phase = .working device task lock w) :
    Steps s ((s.work device task w).2.setPhase i
      (.working device task lock (s.work device task w).1)) i := by
  cases w with
  | starting =>
    refine ⟨id, fun _ => id, fun h => absurd rfl h, ?_⟩
    intro j d hclears
    rcases clears_setPhase hclears with hold | ⟨rfl, hnew⟩
    · exact .inl hold
    · refine .inr ⟨rfl, ?_⟩
      have hasks : s.Asks j device := ⟨c, task, lock, hi, hp⟩
      have hasked : (s.work device task .starting).1 =
          if s.desk.registry.isGranted device = true then .permitted
          else .done (.finished (.error (.permissionDenied device.deviceName))) := rfl
      rw [hasked] at hnew
      by_cases hgranted : s.desk.registry.isGranted device = true
      · rw [if_pos hgranted] at hnew
        cases hnew
        exact ⟨hasks, hgranted⟩
      · rw [if_neg hgranted] at hnew
        cases hnew
  | permitted =>
    obtain ⟨hdevices, hopens⟩ := s.desk.registry.devices_openDevice device
    have hsame : s.desk.registry.Grows
        { (Host.openDevice device s.desk.registry).2 with counters := s.desk.registry.counters } :=
      .of_devices hdevices rfl
    refine ⟨hsame.ordered, hsame.grants, ?_, ?_⟩
    · intro hcount
      obtain ⟨m, hm⟩ := hopens hcount
      exact ⟨device, m, ⟨c, hi, by rw [hp]; rfl⟩, hm⟩
    · intro j d hclears
      refine .inl (clears_of_setPhase hclears rfl ?_)
      dsimp only [work]
      split <;> rfl
  | serving medium =>
    exact .of_grows ⟨.of_devices rfl rfl, fun j d h => clears_of_setPhase h rfl rfl⟩
  | done r => exact .of_grows ⟨.refl _, fun j d h => clears_of_setPhase h rfl rfl⟩

theorem steps_step (s : Service Bus) (i : Nat) : Steps s (s.step i) i := by
  unfold step
  cases hi : s.calls[i]? with
  | none => exact .of_grows ⟨.refl _, fun _ _ => id⟩
  | some c =>
    dsimp only
    cases hp : c.phase with
    | listing =>
      exact .of_grows ⟨s.desk.registry.grows_attached, fun j d h => clears_of_setPhase h rfl rfl⟩
    | listed r => exact .of_grows (s.grows_resolve i c.method r)
    | negotiating device w =>
      exact .of_grows ⟨Desk.grows_check device s.now w s.desk, fun j d h =>
        clears_of_setPhase h rfl (cleared?_phaseOf device _)⟩
    | queued device task lock =>
      dsimp only
      split
      · exact .of_grows ⟨.refl _, fun _ _ => id⟩
      · exact .of_grows ⟨.refl _, fun j d h => clears_of_setPhase h rfl rfl⟩
    | working device task lock w =>
      cases w with
      | done r =>
        refine .of_grows ⟨.refl _, fun j d h => clears_of_setPhase h rfl ?_⟩
        split <;> rfl
      | starting => exact steps_work hi hp
      | permitted => exact steps_work hi hp
      | serving medium => exact steps_work hi hp
    | freed device r =>
      obtain ⟨hcalls, hdesk⟩ := s.prune_frame device.deviceName
      refine .of_grows ⟨?_, fun j d h => clears_of_setPhase h hcalls rfl⟩
      show s.desk.registry.Grows (s.prune device.deviceName).desk.registry
      rw [hdesk]
      exact .refl _
    | _ => exact .of_grows ⟨.refl _, fun _ _ => id⟩

theorem grows_drop (s : Service Bus) (i : Nat) :
    s.desk.registry.Grows (s.drop i).desk.registry ∧
      ∀ j d, (s.drop i).Clears j d → s.Clears j d := by
  have hdropped : ∀ j d, (s.setPhase i .dropped).Clears j d → s.Clears j d :=
    fun j d h => clears_of_setPhase h rfl rfl
  unfold drop
  cases hi : s.calls[i]? with
  | none => exact ⟨.refl _, fun _ _ => id⟩
  | some c =>
    dsimp only
    cases hp : c.phase with
    | negotiating device w =>
      exact ⟨Desk.grows_abandon w s.desk, fun j d h => clears_of_setPhase h rfl rfl⟩
    | working device task lock w =>
      -- the worker goes on
      refine ⟨.refl _, ?_⟩
      rintro j d ⟨c', hj, hc'⟩
      rcases modify_cases hj with ⟨rfl, c₀, hc₀, rfl⟩ | ⟨-, hold⟩
      · exact ⟨c₀, hc₀, hc'⟩
      · exact ⟨c', hold, hc'⟩
    | listing => exact ⟨.refl _, hdropped⟩
    | listed r => exact ⟨.refl _, hdropped⟩
    | queued device task lock => exact ⟨.refl _, hdropped⟩
    | freed device r => exact ⟨.refl _, hdropped⟩
    | dropped => exact ⟨.refl _, hdropped⟩
    -- a call that has come to its end is left as it is
    | _ => exact ⟨.refl _, fun _ _ => id⟩

theorem grows_crash (s : Service Bus) (i : Nat) (message : String) :
    s.desk.registry.Grows (s.crash i message).desk.registry ∧
      ∀ j d, (s.crash i message).Clears j d → s.Clears j d := by
  unfold crash
  cases hi : s.calls[i]? with
  | none => exact ⟨.refl _, fun _ _ => id⟩
  | some c =>
    dsimp only
    cases hp : c.phase with
    | listing => exact ⟨.refl _, fun j d h => clears_of_setPhase h rfl rfl⟩
    | working device task lock w =>
      cases w with
      | done r => exact ⟨.refl _, fun _ _ => id⟩
      | starting => exact ⟨.refl _, fun j d h => clears_of_setPhase h rfl rfl⟩
      | permitted => exact ⟨.refl _, fun j d h => clears_of_setPhase h rfl rfl⟩
      | serving medium => exact ⟨.of_devices rfl rfl, fun j d h => clears_of_setPhase h rfl rfl⟩
    | _ => exact ⟨.refl _, fun _ _ => id⟩

theorem clears_start {s : Service Bus} {method : String} {args : Json} {i : Nat}
    {device : DeviceInfo} (h : (s.start method args).Clears i device) : s.Clears i device := by
  obtain ⟨c, hi, hc⟩ := h
  rcases append_cases hi with hold | rfl
  · exact ⟨c, hold, hc⟩
  · cases hm : Method.ofCall method args with
    | ok m =>
      simp only [hm] at hc
      cases hc
    | error e =>
      simp only [hm] at hc
      cases hc

/-! ## Histories -/

/-- What may happen to a service and its bus. -/
inductive Turn where
  | start (method : String) (args : Json)
  | step (i : Nat)
  | drop (i : Nat)
  | clock (now : Nat)
  | crash (i : Nat) (message : String)
  | act (a : Bus.Act)

/-- A turn as an incident. -/
def Turn.incident : Turn → Incident Bus
  | .start method args => .ordinary (.start method args)
  | .step i => .ordinary (.step i)
  | .drop i => .ordinary (.drop i)
  | .clock now => .ordinary (.clock now)
  | .crash i message => .crash i message
  | .act a => .ordinary (.machine fun b => b.act a)

/-- The service after a turn. -/
def turn (s : Service Bus) (t : Turn) : Service Bus := s.face t.incident

/-- A service on a bus to which nothing has been attached yet, after some turns. -/
def course (bus : Bus) (config : Config) (history : List Turn) : Service Bus :=
  history.foldl turn { desk := { registry := { bus with devices := [] }, config } }

theorem course_concat (bus : Bus) (config : Config) (history : List Turn) (t : Turn) :
    course bus config (history ++ [t]) = (course bus config history).turn t := by
  simp [course]

/-- A turn that takes a grant back. -/
def Turn.Withdraws (name : String) : Turn → Prop
  | .act a => a.Withdraws name
  | _ => False

/-- **What any turn may do about openings.** -/
structure Turns (s s' : Service Bus) (t : Turn) : Prop where
  ordered : s.desk.registry.Ordered → s'.desk.registry.Ordered
  grants : ∀ name, ¬ t.Withdraws name → s.desk.registry.grants name = true →
    s'.desk.registry.grants name = true
  opens : s'.desk.registry.counters.opens ≠ s.desk.registry.counters.opens →
    ∃ i device m, t = .step i ∧ s.Clears i device ∧
      (s.desk.registry.openDevice device).1 = .ok m
  clears : ∀ j device, s'.Clears j device →
    s.Clears j device ∨ t = .step j ∧ s.Asks j device ∧ s.desk.registry.isGranted device = true

theorem Turns.of_grows {s s' : Service Bus} {t : Turn}
    (h : s.desk.registry.Grows s'.desk.registry ∧ ∀ j d, s'.Clears j d → s.Clears j d) :
    Turns s s' t where
  ordered := h.1.ordered
  grants name _ := h.1.grants name
  opens hopens := absurd h.1.opens hopens
  clears j device hclears := .inl (h.2 j device hclears)

theorem turns_turn (s : Service Bus) (t : Turn) : Turns s (s.turn t) t := by
  cases t with
  | start method args => exact .of_grows ⟨.refl _, fun _ _ => clears_start⟩
  | drop i => exact .of_grows (s.grows_drop i)
  | clock now => exact .of_grows ⟨.refl _, fun _ _ => id⟩
  | crash i message => exact .of_grows (s.grows_crash i message)
  | act a =>
    exact ⟨fun h => Bus.ordered_act h a, fun _ ha h => Bus.grants_act h ha,
      fun h => absurd (s.desk.registry.opens_act a) h, fun _ _ => .inl⟩
  | step i =>
    have hsteps := s.steps_step i
    refine ⟨hsteps.ordered, fun name _ => hsteps.grants name, ?_, ?_⟩
    · intro hopens
      obtain ⟨device, m, hclears, hm⟩ := hsteps.opens hopens
      exact ⟨i, device, m, rfl, hclears, hm⟩
    · intro j device hclears
      rcases hsteps.clears j device hclears with hold | ⟨rfl, hfound⟩
      · exact .inl hold
      · exact .inr ⟨rfl, hfound⟩

/-- In the course of a history a call has asked and found a device granted; and it is granted still
if nobody has taken the grant back since. -/
def FoundGranted (bus : Bus) (config : Config) (history : List Turn) (i : Nat)
    (device : DeviceInfo) : Prop :=
  ∃ before later, history = before ++ .step i :: later ∧
    ((course bus config before).Asks i device ∧
      (course bus config before).desk.registry.isGranted device = true) ∧
    ((∀ t ∈ later, ¬ t.Withdraws device.deviceName) →
      (course bus config history).desk.registry.isGranted device = true)

theorem FoundGranted.concat {bus : Bus} {config : Config} {history : List Turn} {i : Nat}
    {device : DeviceInfo} (h : FoundGranted bus config history i device) (t : Turn) :
    FoundGranted bus config (history ++ [t]) i device := by
  obtain ⟨before, later, hhistory, hfound, hstill⟩ := h
  refine ⟨before, later ++ [t], by rw [hhistory]; simp, hfound, ?_⟩
  intro hkept
  rw [course_concat]
  refine (turns_turn _ t).grants device.deviceName (hkept t (by simp)) (hstill ?_)
  exact fun t' ht' => hkept t' (List.mem_append_left _ ht')

/-- **All along a history** the devices are in order, and a device that is about to be opened was
found granted. -/
theorem cleared_course (bus : Bus) (config : Config) (history : List Turn) :
    (course bus config history).desk.registry.Ordered ∧
      ∀ i device, (course bus config history).Clears i device →
        FoundGranted bus config history i device := by
  induction history using List.reverseRecOn with
  | nil =>
    refine ⟨List.Pairwise.nil, ?_⟩
    rintro i device ⟨c, hi, -⟩
    simp [course] at hi
  | append_singleton history t ih =>
    obtain ⟨hordered, hcleared⟩ := ih
    have hturns := turns_turn (course bus config history) t
    rw [course_concat]
    refine ⟨hturns.ordered hordered, fun i device hclears => ?_⟩
    rcases hturns.clears i device hclears with hold | ⟨rfl, hfound⟩
    · exact (hcleared i device hold).concat t
    · refine ⟨history, [], rfl, hfound, fun _ => ?_⟩
      rw [course_concat]
      exact hturns.grants device.deviceName (fun h => h.elim) hfound.2

/-! ## Histories as the schedule makes them -/

/-- A history in which bus operations come only while no call is at work. -/
inductive Paced (bus : Bus) (config : Config) : List Turn → Prop where
  | start : Paced bus config []
  | turn {history : List Turn} (h : Paced bus config history) (t : Turn)
      (ht : ∀ a, t = .act a → (course bus config history).AtRest) :
      Paced bus config (history ++ [t])

/-- **All along a paced history** a device that is about to be opened is granted. -/
theorem Paced.granted {bus : Bus} {config : Config} {history : List Turn}
    (h : Paced bus config history) {i : Nat} {device : DeviceInfo}
    (hclears : (course bus config history).Clears i device) :
    (course bus config history).desk.registry.isGranted device = true := by
  induction h with
  | start =>
    obtain ⟨c, hi, -⟩ := hclears
    simp [course] at hi
  | @turn history _ t ht ih =>
    have hturns := turns_turn (course bus config history) t
    rw [course_concat] at hclears ⊢
    rcases hturns.clears i device hclears with hold | ⟨rfl, -, hgranted⟩
    · refine hturns.grants device.deviceName ?_ (ih hold)
      intro hwithdraws
      cases t with
      | act a =>
        -- nothing is done to the bus while a worker has a device to open
        obtain ⟨c, hi, hc⟩ := hold
        have hzero := (ht a rfl).phase (List.mem_of_getElem? hi)
        rw [Phase.toGo_of_cleared hc] at hzero
        cases hzero
      | _ => exact hwithdraws
    · exact hturns.grants device.deviceName (fun h => h.elim) hgranted

/-- A bus operation at a time. -/
def timed (x : Nat × Bus.Act) : Schedule.Event (Service Bus) where
  time := x.1
  act s := s.turn (.act x.2)

/-- A service that a paced history leads to, which goes on from a given one. -/
def Leads (bus : Bus) (config : Config) (history : List Turn) (s : Service Bus) : Prop :=
  ∃ further, s = course bus config (history ++ further) ∧ Paced bus config (history ++ further)

namespace Leads
variable {bus : Bus} {config : Config} {history : List Turn} {s : Service Bus}

theorem turn (h : Leads bus config history s) (t : Turn) (ht : ∀ a, t = .act a → s.AtRest) :
    Leads bus config history (s.turn t) := by
  obtain ⟨further, rfl, hpaced⟩ := h
  refine ⟨further ++ [t], ?_, ?_⟩
  · rw [← List.append_assoc, course_concat]
  · rw [← List.append_assoc]
    exact hpaced.turn t ht

/-- A part of a round. -/
theorem foldl_tryStep (h : Leads bus config history s) (l : List Nat) :
    Leads bus config history (l.foldl tryStep s) := by
  induction l generalizing s with
  | nil => exact h
  | cons i l ih =>
    rw [List.foldl_cons]
    refine ih ?_
    unfold tryStep
    split
    · exact h.turn (.step i) nofun
    · exact h

theorem settle (h : Leads bus config history s) (n : Nat) :
    Leads bus config history (Schedule.settle n s) := by
  induction n generalizing s with
  | zero => exact h
  | succ n ih =>
    rw [Schedule.settle]
    split
    · exact ih (h.foldl_tryStep _)
    · exact h

theorem foldl_drop (h : Leads bus config history s) (l : List Nat) :
    Leads bus config history (l.foldl (fun s i => Concurrent.drop i s) s) := by
  induction l generalizing s with
  | nil => exact h
  | cons i l ih =>
    rw [List.foldl_cons]
    exact ih (h.turn (.drop i) nofun)

/-- Bus operations leave all calls at rest. -/
theorem foldl_timed (h : Leads bus config history s) (hrest : s.AtRest)
    (events : List (Nat × Bus.Act)) :
    Leads bus config history (events.foldl (fun s x => (timed x).act s) s) := by
  induction events generalizing s with
  | nil => exact h
  | cons x events ih =>
    rw [List.foldl_cons]
    have hkept : (s.turn (.act x.2)).AtRest := hrest
    exact ih (h.turn (.act x.2) fun _ _ => hrest) hkept

/-- **The runs of the schedule are paced.** -/
theorem run (h : Leads bus config history s) (moments : Nat) (events : List (Nat × Bus.Act))
    (dropAt : Option Nat) :
    Leads bus config history (Schedule.run moments (events.map timed) dropAt s).2 := by
  induction moments generalizing events s with
  | zero => exact h
  | succ moments ih =>
    have hsettled := h.settle (Schedule.rounds s)
    have hrest := atRest_settle s
    rw [Schedule.run]
    dsimp only
    generalize Schedule.settle (Schedule.rounds s) s = settled at hsettled hrest ⊢
    split
    · exact hsettled
    · split
      · exact hsettled
      · next t _ =>
        have hlater : Leads bus config history (Concurrent.setNow t settled) :=
          hsettled.turn (.clock t) nofun
        split
        · exact hlater.foldl_drop _
        · rw [List.filter_map, List.filter_map, List.foldl_map]
          exact ih (hlater.foldl_timed hrest _) _

end Leads

/-- **No device is opened that was not granted.**  Whatever has happened to a bus and to a service
on it, also with several devices under one name: access to a device is granted exactly if the first
device of its name is, and that is the one that is opened.  Only the step of a call opens a device.
That call has asked before and found the name granted; and the device it opens is granted, if bus
operations come only while no call is at work, or else if none has unplugged or revoked the name
between the question and the opening.  In all runs of the schedule they come only then, whatever is
called and whatever is done to the bus at whatever times. -/
theorem only_granted_opened (bus : Bus) (config : Config) (history : List Turn) :
    let s := course bus config history
    (∀ d, (Bus.hasPermission d s.desk.registry).1 = true ↔
      ∃ x, s.desk.registry.first? d.deviceName = some x ∧ x.granted = true) ∧
    (∀ d m, (Bus.openDevice d s.desk.registry).1 = .ok m →
      ∃ x, s.desk.registry.first? d.deviceName = some x ∧ x.opening = .ok m) ∧
    (∀ t, (s.turn t).desk.registry.counters.opens ≠ s.desk.registry.counters.opens →
      ∃ i device x m before later, t = .step i ∧
        s.desk.registry.first? device.deviceName = some x ∧ x.opening = .ok m ∧
        history = before ++ .step i :: later ∧ (course bus config before).Asks i device ∧
        (Bus.hasPermission device (course bus config before).desk.registry).1 = true ∧
        (Paced bus config history ∨ (∀ t' ∈ later, ¬ t'.Withdraws device.deviceName) →
          x.granted = true)) ∧
    (Paced bus config history → ∀ moments (events : List (Nat × Bus.Act)) dropAt, ∃ further,
      (Schedule.run moments (events.map timed) dropAt s).2 =
          course bus config (history ++ further) ∧
        Paced bus config (history ++ further)) := by
  intro s
  obtain ⟨hordered, hcleared⟩ := cleared_course bus config history
  refine ⟨fun d => hordered.grants_iff d.deviceName, fun d m => Bus.first_of_openDevice, ?_, ?_⟩
  · intro t hopens
    obtain ⟨i, device, m, ht, hclears, hm⟩ := (turns_turn s t).opens hopens
    obtain ⟨x, hx, hmedium⟩ := Bus.first_of_openDevice hm
    obtain ⟨before, later, hhistory, ⟨hasks, hfound⟩, hstill⟩ := hcleared i device hclears
    refine ⟨i, device, x, m, before, later, ht, hx, hmedium, hhistory, hasks, hfound,
      fun h => ?_⟩
    have hgrants : s.desk.registry.isGranted device = true := by
      rcases h with hpaced | hkept
      · exact hpaced.granted hclears
      · exact hstill hkept
    obtain ⟨y, hy, hgranted⟩ := (hordered.grants_iff device.deviceName).mp hgrants
    obtain rfl : y = x := Option.some.inj (hy.symm.trans hx)
    exact hgranted
  · intro hpaced moments events dropAt
    have hleads : Leads bus config history s := by
      refine ⟨[], ?_, ?_⟩ <;> rw [List.append_nil]
      exact hpaced
    exact hleads.run moments events dropAt

/-- Two sticks under one name, of which only the first is granted, and a call that is about to open
one. -/
def twins : List Turn :=
  [.act (.attach ⟨"usb1", none, none, 1, 2⟩ (.unreadable 8)), .act (.setGranted "usb1" true),
    .act (.attach ⟨"usb1", none, none, 3, 4⟩ (.unreadable 9)),
    .start "readdir" (.obj [("vendorId", .nat 3), ("productId", .nat 4), ("path", .str "/")]),
    .step 0, .step 0, .step 0, .step 0]

/-- Everything is done to the bus before the call starts. -/
theorem paced_twins : Paced {} .default twins := by
  refine @Paced.turn _ _ [_, _, _, _, _, _, _] ?_ _ nofun
  refine @Paced.turn _ _ [_, _, _, _, _, _] ?_ _ nofun
  refine @Paced.turn _ _ [_, _, _, _, _] ?_ _ nofun
  refine @Paced.turn _ _ [_, _, _, _] ?_ _ nofun
  refine @Paced.turn _ _ [_, _, _] ?_ _ nofun
  refine @Paced.turn _ _ [_, _] ?_ _ fun _ _ => rfl
  refine @Paced.turn _ _ [_] ?_ _ fun _ _ => rfl
  exact @Paced.turn _ _ [] .start _ fun _ _ => rfl

/-- The call is about the second stick, and opens the first, which is granted. -/
theorem only_granted_opened_twins :
    (course {} .default twins).desk.registry.devices.map BusDevice.granted = [true, false] ∧
    ((course {} .default twins).turn (.step 0)).desk.registry.counters.opens ≠
      (course {} .default twins).desk.registry.counters.opens ∧
    ∃ device x m before later,
      (course {} .default twins).desk.registry.first? device.deviceName = some x ∧
      x.opening = .ok m ∧ twins = before ++ .step 0 :: later ∧
      (Bus.hasPermission device (course {} .default before).desk.registry).1 = true ∧
      x.granted = true := by
  have hopens : ((course {} .default twins).turn (.step 0)).desk.registry.counters.opens ≠
      (course {} .default twins).desk.registry.counters.opens := by decide +kernel
  refine ⟨by decide +kernel, hopens, ?_⟩
  obtain ⟨i, device, x, m, before, later, hi, hx, hmedium, hhistory, -, hfound, hgranted⟩ :=
    (only_granted_opened {} .default twins).2.2.1 (.step 0) hopens
  cases hi
  exact ⟨device, x, m, before, later, hx, hmedium, hhistory, hfound, hgranted (.inl paced_twins)⟩

/-- A stick that is granted until a call has found it so, and is revoked then. -/
def revokedBetween : List Turn :=
  [.act (.attach ⟨"usb1", none, none, 1, 2⟩ (.unreadable 8)), .act (.setGranted "usb1" true),
    .start "readdir" (.obj [("vendorId", .nat 1), ("productId", .nat 2), ("path", .str "/")]),
    .step 0, .step 0, .step 0, .step 0, .act (.setGranted "usb1" false)]

/-- A call about a stick that is not granted, to a service that asks the registry of device nodes
instead of the bus. -/
def askedElsewhere : Service (Bus × NodeRegistry) :=
  let bus := Bus.attach {} ⟨"/dev/null", none, none, 1, 2⟩ (.unreadable 8)
  let s : Service (Bus × NodeRegistry) :=
    { desk := { registry := (bus, { nodes := Machine.commonNodes }), config := .default } }
  s.start "readdir" (.obj [("vendorId", .nat 1), ("productId", .nat 2), ("path", .str "/")])

/-- **Devices that are not granted are opened**: one that was granted when the worker asked, and is
revoked before the worker opens it; and one that was never granted on its bus, by a service that
asks another registry. -/
theorem opened_without_grant :
    ((course {} .default revokedBetween).desk.registry.devices.map BusDevice.granted = [false] ∧
      ((course {} .default revokedBetween).turn (.step 0)).desk.registry.counters.opens =
        (course {} .default revokedBetween).desk.registry.counters.opens + 1) ∧
    askedElsewhere.desk.registry.1.devices.map BusDevice.granted = [false] ∧
      (Schedule.run (askedElsewhere.moments 0) [] none
        askedElsewhere).2.desk.registry.1.counters.opens =
          askedElsewhere.desk.registry.1.counters.opens + 1 := by
  decide +kernel

end Service
end ThumbDrive
