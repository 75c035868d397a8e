import ThumbDrive.Proofs.Recorded

/-! # What a call asks of the machine

No device is opened without a granted answer, and nobody is asked anything unless a caller wants it.
Each operation has its script: what it asks of the machine, in order, as far as it has come.
`OnScript` ties the script to the phases of a call; a step of the call goes on in it
(`onScript_step`), and what anybody else does leaves the call where it is.  So a call that has ended
has followed its script to one of its ends, whatever the bus and the other calls did in the
meantime. -/
namespace ThumbDrive

namespace PlatformCall

/-- Puts a question to the user. -/
def isRequest : PlatformCall → Bool
  | .requested _ => true
  | _ => false

/-- Opens a device. -/
def isOpening : PlatformCall → Bool
  | .opened _ => true
  | _ => false

/-- Only looks: at the list of devices, or whether access is granted. -/
def isLook : PlatformCall → Bool
  | .listed _ => true
  | .asked .. => true
  | _ => false

/-- Has to do with a question to the user, and with the receiver of the answer. -/
def isPrompt : PlatformCall → Bool
  | .registered _ => true
  | .unregistered _ => true
  | .requested _ => true
  | _ => false

/-- The answer to the question whether access is granted. -/
def granted? : PlatformCall → Option Bool
  | .asked _ granted => some granted
  | _ => none

end PlatformCall

/-- Whether an operation only looks. -/
def Method.onlyLooks : Method → Bool
  | .getDevices => true
  | .onDevice _ _ .hasPermission => true
  | _ => false

/-- Who is not understood is told that the arguments are wrong. -/
theorem Method.invalidArgument_of_ofCall {name : String} {args : Json} {e : StorageError}
    (h : Method.ofCall name args = .error e) : ∃ text, e = .invalidArgument text := by
  have hdevice : ∀ task, aboutDevice args task = .error e → ∃ text, e = .invalidArgument text := by
    intro task h
    unfold aboutDevice at h
    split at h <;> cases h
    exact ⟨_, rfl⟩
  have hpath : ∀ task, aboutPath args task = .error e → ∃ text, e = .invalidArgument text := by
    intro task h
    unfold aboutPath at h
    split at h <;> cases h
    exact ⟨_, rfl⟩
  unfold ofCall at h
  split at h
  · cases h
  · exact hdevice _ h
  · exact hdevice _ h
  · exact hpath _ h
  · exact hpath _ h
  · cases h
    exact ⟨_, rfl⟩

/-- **What an operation asks of the machine** in a call that comes to an answer `r`. -/
structure Conduct (m : Method) (t : List PlatformCall) (r : Except StorageError Answer) : Prop where
  /-- Where no device has the ids, nothing is asked for but the list of devices. -/
  absent : ∀ v p task, m = .onDevice v p task → ∃ l rest, t = .listed l :: rest ∧
    ∀ found, l = .finished found → (∀ d ∈ Discovery.devices found, d.hasIds v p = false) →
      rest = [] ∧ r = .error (.deviceNotFound v p)
  looks : m.onlyLooks = true → ∀ x ∈ t, x.isLook = true
  /-- The user is asked once if the first answer was that access is not granted, and else never. -/
  prompts : ∀ v p, m = .onDevice v p .requestPermission →
    (∀ x ∈ t, x.isOpening = false) ∧
      t.countP PlatformCall.isRequest =
        if t.findSome? PlatformCall.granted? = some false then 1 else 0
  /-- A device is opened at most once, and only if access to it was found to be granted before. -/
  reads : ∀ v p task, m = .onDevice v p (.files task) →
    (∀ x ∈ t, x.isPrompt = false) ∧ t.countP PlatformCall.isOpening ≤ 1 ∧
      ∀ before device later, t = before ++ .opened device :: later → .asked device true ∈ before

/-! ## Scripts -/

/-- Calls to the machine that ask for access and wait for it, with `n` questions to the user. -/
structure Asking (n : Nat) (t : List PlatformCall) : Prop where
  closed : ∀ x ∈ t, x.isOpening = false
  requests : t.countP PlatformCall.isRequest = n

/-- What a call about files asks of the machine when it has found its device. -/
inductive Visit (device : DeviceInfo) : List PlatformCall → Prop where
  | refused : Visit device [.asked device false]
  | notOpened : Visit device [.asked device true, .opened device]
  | closed : Visit device [.asked device true, .opened device, .closed]

/-- **The script of a call that has found its device.** -/
inductive Follows (device : DeviceInfo) : DeviceTask → Phase → List PlatformCall → Prop where
  | looked (r : Except StorageError Answer) (granted : Bool) :
      Follows device .hasPermission (.over r) [.asked device granted]
  | granted (r : Except StorageError Answer) :
      Follows device .requestPermission (.over r) [.asked device true]
  | waiting (w : Wait) {t : List PlatformCall} (h : Asking 1 t) :
      Follows device .requestPermission (.negotiating device w) (.asked device false :: t)
  | answered (r : Except StorageError Answer) {t : List PlatformCall} (h : Asking 1 t) :
      Follows device .requestPermission (.over r) (.asked device false :: t)
  | queued (task : FileTask) (lock : LockId) :
      Follows device (.files task) (.queued device task lock) []
  | starting (task : FileTask) (lock : LockId) :
      Follows device (.files task) (.working device task lock .starting) []
  | permitted (task : FileTask) (lock : LockId) :
      Follows device (.files task) (.working device task lock .permitted) [.asked device true]
  | serving (task : FileTask) (lock : LockId) (medium : Medium) :
      Follows device (.files task) (.working device task lock (.serving medium))
        [.asked device true, .opened device]
  | done (task : FileTask) (lock : LockId) (r : Job (Except StorageError Answer))
      {t : List PlatformCall} (h : Visit device t) :
      Follows device (.files task) (.working device task lock (.done r)) t
  | freed (task : FileTask) (r : Job (Except StorageError Answer)) {t : List PlatformCall}
      (h : Visit device t) : Follows device (.files task) (.freed device r) t
  | returned (task : FileTask) (r : Except StorageError Answer) {t : List PlatformCall}
      (h : Visit device t) : Follows device (.files task) (.over r) t

/-- The devices a call gets to see. -/
def Discovery.found : Job (Except IoError (List Attached)) → Job (List DeviceInfo)
  | .finished r => .finished (Discovery.devices r)
  | .crashed message => .crashed message

/-- **The script of an operation.**  A caller who gives up ends it at any point. -/
inductive OnScript : Method → Phase → List PlatformCall → Prop where
  | listing (m : Method) : OnScript m .listing []
  | listed (m : Method) (l : Job (Except IoError (List Attached))) :
      OnScript m (.listed (Discovery.found l)) [.listed l]
  | devices (r : Except StorageError Answer) (l : Job (Except IoError (List Attached))) :
      OnScript .getDevices (.over r) [.listed l]
  | crashed (v p : UInt16) (task : DeviceTask) (r : Except StorageError Answer) (message : String) :
      OnScript (.onDevice v p task) (.over r) [.listed (.crashed message)]
  | notFound (v p : UInt16) (task : DeviceTask) (l : Except IoError (List Attached)) :
      OnScript (.onDevice v p task) (.over (.error (.deviceNotFound v p))) [.listed (.finished l)]
  | found {v p : UInt16} {task : DeviceTask} {l : Except IoError (List Attached)}
      {device : DeviceInfo} {phase : Phase} {t : List PlatformCall}
      (hfound : Discovery.find? (Discovery.devices l) v p = some device)
      (h : Follows device task phase t) :
      OnScript (.onDevice v p task) phase (.listed (.finished l) :: t)
  | dropped (m : Method) (t : List PlatformCall) : OnScript m .dropped t

/-- What is opened comes after the first two calls, if these open nothing. -/
theorem mem_before_opened {x y : PlatformCall} {t before later : List PlatformCall}
    {device : DeviceInfo} (hx : x.isOpening = false) (hy : y.isOpening = false)
    (h : x :: y :: t = before ++ .opened device :: later) : y ∈ before ∧ .opened device ∈ t := by
  rcases before with _ | ⟨x', _ | ⟨y', before⟩⟩
  · cases h
    cases hx
  · cases h
    cases hy
  · cases h
    simp

/-- A visit opens its device at most once, and only if access was found to be granted. -/
theorem Visit.conduct {device : DeviceInfo} {t : List PlatformCall} (h : Visit device t)
    (l : Job (Except IoError (List Attached))) :
    (∀ x ∈ .listed l :: t, x.isPrompt = false) ∧
      (.listed l :: t).countP PlatformCall.isOpening ≤ 1 ∧
      ∀ before opened later, .listed l :: t = before ++ .opened opened :: later →
        .asked opened true ∈ before := by
  cases h with
  | refused =>
    refine ⟨by simp [PlatformCall.isPrompt], by simp [PlatformCall.isOpening], ?_⟩
    intro before opened later heq
    cases (mem_before_opened rfl rfl heq).2
  | notOpened =>
    refine ⟨by simp [PlatformCall.isPrompt], by simp [PlatformCall.isOpening], ?_⟩
    intro before opened later heq
    obtain ⟨hasked, hopened⟩ := mem_before_opened rfl rfl heq
    cases List.mem_singleton.mp hopened
    exact hasked
  | closed =>
    refine ⟨by simp [PlatformCall.isPrompt], by simp [List.countP_cons, PlatformCall.isOpening], ?_⟩
    intro before opened later heq
    obtain ⟨hasked, hopened⟩ := mem_before_opened rfl rfl heq
    obtain rfl : opened = device := by simpa using hopened
    exact hasked

/-- A call that asks for nothing but the list behaves. -/
theorem Conduct.of_listed {m : Method} {l : Job (Except IoError (List Attached))}
    {r : Except StorageError Answer}
    (h : ∀ v p task, m = .onDevice v p task → ∀ found, l = .finished found →
      r = .error (.deviceNotFound v p)) : Conduct m [.listed l] r where
  absent v p task hm := ⟨l, [], rfl, fun found hl _ => ⟨rfl, h v p task hm found hl⟩⟩
  looks := by simp [PlatformCall.isLook]
  prompts := by simp [PlatformCall.isOpening, PlatformCall.isRequest, PlatformCall.granted?]
  reads v p task _ := by
    refine ⟨by simp [PlatformCall.isPrompt], by simp [PlatformCall.isOpening], ?_⟩
    intro before device later heq
    have hopened : .opened device ∈ [PlatformCall.listed l] := by
      rw [heq]
      simp
    cases List.mem_singleton.mp hopened

/-- **Who has followed the script to its end has behaved.** -/
theorem OnScript.conduct {m : Method} {t : List PlatformCall} {r : Except StorageError Answer}
    (h : OnScript m (.over r) t) : Conduct m t r := by
  cases h with
  | devices r l => exact .of_listed fun v p task hm => nomatch hm
  | crashed v p task r message => exact .of_listed fun _ _ _ _ found hl => nomatch hl
  | notFound v p task l =>
    refine .of_listed ?_
    rintro v p task ⟨⟩ found -
    rfl
  | @found v p task l device _ t hfound h =>
    have habsent : ∀ v' p' task', Method.onDevice v p task = .onDevice v' p' task' →
        ∃ l' rest, .listed (.finished l) :: t = .listed l' :: rest ∧
          ∀ found, l' = .finished found →
            (∀ d ∈ Discovery.devices found, d.hasIds v' p' = false) →
            rest = [] ∧ r = .error (.deviceNotFound v' p') := by
      rintro v p task ⟨⟩
      refine ⟨.finished l, t, rfl, ?_⟩
      rintro found ⟨⟩ hnone
      -- but the device was found
      have hids := List.find?_some hfound
      rw [hnone device (List.mem_of_find?_eq_some hfound)] at hids
      cases hids
    cases h with
    | looked r granted =>
      exact ⟨habsent, by simp [PlatformCall.isLook], by rintro v p ⟨⟩, by rintro v p task ⟨⟩⟩
    | granted r =>
      refine ⟨habsent, by simp [Method.onlyLooks], ?_, by rintro v p task ⟨⟩⟩
      rintro v p -
      simp [PlatformCall.isOpening, PlatformCall.isRequest, List.findSome?_cons,
        PlatformCall.granted?]
    | answered r hasking =>
      refine ⟨habsent, by simp [Method.onlyLooks], ?_, by rintro v p task ⟨⟩⟩
      rintro v p -
      refine ⟨?_, ?_⟩
      · simpa [PlatformCall.isOpening] using hasking.closed
      · simpa [PlatformCall.isRequest, List.findSome?_cons, PlatformCall.granted?]
          using hasking.requests
    | returned task r hvisit =>
      exact ⟨habsent, by simp [Method.onlyLooks], by rintro v p ⟨⟩,
        fun _ _ _ _ => hvisit.conduct (.finished l)⟩

theorem Asking.append {n n' : Nat} {t t' : List PlatformCall} (h : Asking n t) (h' : Asking n' t') :
    Asking (n + n') (t ++ t') where
  closed x hx := (List.mem_append.mp hx).elim (h.closed x) (h'.closed x)
  requests := by rw [List.countP_append, h.requests, h'.requests]

/-! ## What a desk asks of its registry -/

namespace Desk
variable {π : Type}

/-- What a turn at the desk adds to the record. -/
def Adds (d d' : Desk (Recorded π)) (n : Nat) : Prop :=
  ∃ new, d'.registry.log = d.registry.log ++ new ∧ Asking n new

theorem Adds.trans {d d' d'' : Desk (Recorded π)} {n k : Nat} (h : Adds d d' n)
    (h' : Adds d' d'' k) : Adds d d'' (n + k) := by
  obtain ⟨new, hlog, hasking⟩ := h
  obtain ⟨new', hlog', hasking'⟩ := h'
  exact ⟨new ++ new', by rw [hlog', hlog, List.append_assoc], hasking.append hasking'⟩

theorem adds_nothing (d : Desk (Recorded π)) : Adds d d 0 :=
  ⟨[], (List.append_nil _).symm, ⟨by simp, rfl⟩⟩

theorem adds_one {d d' : Desk (Recorded π)} {x : PlatformCall}
    (hlog : d'.registry.log = d.registry.log ++ [x]) (hx : x.isOpening = false) :
    Adds d d' (if x.isRequest then 1 else 0) := by
  refine ⟨[x], hlog, ⟨by simpa using hx, ?_⟩⟩
  rw [List.countP_singleton]

variable [Registry π]

theorem adds_settle (device : DeviceInfo) (receiver : ReceiverId)
    (r : Except IoError PermissionOutcome) (d : Desk (Recorded π)) :
    Adds d (d.settle device receiver r) 0 :=
  adds_one (x := .unregistered receiver) rfl rfl

theorem adds_check (device : DeviceInfo) (now : Nat) (w : Wait) (d : Desk (Recorded π)) :
    Adds d (check device now w d).2 0 := by
  cases w with
  | notification receiver deadline =>
    rw [check_eq]
    cases Wait.verdict? d.config.timeoutMs.toNat deadline now (d.answer? receiver) with
    | some outcome => exact adds_settle device receiver (.ok outcome) d
    | none => exact adds_nothing d
  | polling started deadline wake =>
    have hasked : ∀ {d' : Desk (Recorded π)},
        d'.registry = (Registry.hasPermission device d.registry).2 → Adds d d' 0 := by
      intro d' hd
      exact adds_one (x := .asked device _) (congrArg Recorded.log hd) rfl
    rw [check_polling_eq]
    dsimp only
    split
    · exact adds_nothing d
    · split
      · exact hasked rfl
      · split <;> exact hasked rfl

/-- One question is put to the user. -/
theorem adds_await (device : DeviceInfo) (id : RequestId) (now deadline : Nat)
    (strategy : WaitStrategy) (d : Desk (Recorded π)) :
    Adds d (await device id now deadline strategy d).2 1 := by
  have hrequest : ∀ d : Desk (Recorded π), Adds d (request id device d).2 1 := fun d =>
    adds_one (x := .requested device) rfl rfl
  cases strategy with
  | event =>
    have hregister : Adds d (register id d).2 0 := adds_one (x := .registered id) rfl rfl
    rw [await_event_eq]
    refine (hregister.trans (hrequest _)).trans (k := 0) ?_
    cases (request id device (register id d).2).1 with
    | ok _ => exact adds_check device now _ _
    | error e => exact adds_settle device _ (.error e) _
  | poll =>
    rw [await_poll_eq]
    refine (hrequest d).trans (k := 0) ?_
    cases (request id device d).1 with
    | ok _ => exact adds_check device now _ _
    | error e => exact adds_nothing _

/-- **The user is asked exactly if access is not granted yet.** -/
theorem follows_ensure (device : DeviceInfo) (now : Nat) (d : Desk (Recorded π)) :
    ∃ t, (ensure device now d).2.registry.log = d.registry.log ++ t ∧
      Follows device .requestPermission (Service.phaseOf device (ensure device now d).1) t := by
  have hasked : (Registry.hasPermission device d.registry).2.log =
      d.registry.log ++ [.asked device (Registry.hasPermission device d.registry).1] := rfl
  rw [ensure_await]
  by_cases hgranted : (Registry.hasPermission device d.registry).1 = true
  · rw [if_pos hgranted]
    rw [hgranted] at hasked
    exact ⟨_, hasked, .granted _⟩
  · rw [if_neg hgranted]
    rw [Bool.eq_false_iff.mpr hgranted] at hasked
    obtain ⟨new, hlog, hasking⟩ := adds_await device d.nextRequest now
      (now + d.config.timeoutMs.toNat) d.config.strategy (d.pend device)
    refine ⟨.asked device false :: new, ?_, ?_⟩
    · rw [hlog, show (d.pend device).registry.log = _ from hasked, List.append_assoc]
      rfl
    · cases (await device d.nextRequest now (now + d.config.timeoutMs.toNat) d.config.strategy
        (d.pend device)).1 with
      | waiting w => exact .waiting w hasking
      | ended r => exact .answered _ hasking

end Desk

/-! ## A step goes on in the script -/

namespace Service
variable {π : Type}

/-- A call does a step: it goes to phase `p`, and `new` is added to the record. -/
structure Adds (s s' : Service (Recorded π)) (i : Nat) (c : Call) (new : List PlatformCall)
    (p : Phase) : Prop where
  log : s'.log = s.log ++ new
  call : s'.calls[i]? = some { c with phase := p }

variable {s : Service (Recorded π)} {i : Nat} {c : Call}

theorem Adds.none (hi : s.calls[i]? = some c) : Adds s s i c [] c.phase :=
  ⟨(List.append_nil _).symm, hi⟩

theorem Adds.phase {s' : Service (Recorded π)} {new : List PlatformCall} {p : Phase}
    (hi : s.calls[i]? = some c)
    (hcalls : s'.calls = s.calls.modify i fun c => { c with phase := p })
    (hlog : s'.log = s.log ++ new) : Adds s s' i c new p := by
  refine ⟨hlog, ?_⟩
  rw [hcalls, List.getElem?_modify_eq, hi]
  rfl

variable [Registry π]

/-- The call looks at the list, and goes on if it finds its device. -/
theorem onScript_resolve (hi : s.calls[i]? = some c) (l : Job (Except IoError (List Attached))) :
    ∃ new p, Adds s (s.resolve i c.method (Discovery.found l)) i c new p ∧
      OnScript c.method p (.listed l :: new) := by
  cases l with
  | crashed message =>
    cases hm : c.method with
    | getDevices => exact ⟨[], _, .phase hi rfl (List.append_nil _).symm, .devices _ _⟩
    | onDevice v q task => exact ⟨[], _, .phase hi rfl (List.append_nil _).symm, .crashed ..⟩
  | finished l =>
    cases hm : c.method with
    | getDevices => exact ⟨[], _, .phase hi rfl (List.append_nil _).symm, .devices _ _⟩
    | onDevice v q task =>
      simp only [Discovery.found, resolve]
      cases hfind : Discovery.find? (Discovery.devices l) v q with
      | none => exact ⟨[], _, .phase hi rfl (List.append_nil _).symm, .notFound v q task l⟩
      | some device =>
        cases task with
        | hasPermission =>
          exact ⟨[.asked device _], _, .phase hi rfl rfl, .found hfind (.looked _ _)⟩
        | requestPermission =>
          obtain ⟨t, hlog, hfollows⟩ :=
            Desk.follows_ensure device s.now (s.desk.retain (Discovery.devices l))
          exact ⟨t, _, .phase hi rfl hlog, .found hfind hfollows⟩
        | files task =>
          obtain ⟨hcalls, hdesk⟩ := lockOf_frame
            { s with desk := s.desk.retain (Discovery.devices l) } device.deviceName
          refine ⟨[], _, .phase hi (congrArg (List.modify · i _) hcalls) ?_,
            .found hfind (.queued task _)⟩
          exact (congrArg (·.registry.log) hdesk).trans (List.append_nil _).symm

variable [Host π]

theorem log_work (device : DeviceInfo) (task : FileTask) (lock : LockId) {w : Worker}
    (s : Service (Recorded π)) {t : List PlatformCall}
    (h : Follows device (.files task) (.working device task lock w) t) :
    ∃ new, (s.work device task w).2.log = s.log ++ new ∧
      Follows device (.files task) (.working device task lock (s.work device task w).1)
        (t ++ new) := by
  cases h with
  | starting =>
    refine ⟨[.asked device _], rfl, ?_⟩
    show Follows device (.files task) (.working device task lock
      (if (Desk.hasPermission device s.desk).1 then .permitted else _))
      [.asked device (Desk.hasPermission device s.desk).1]
    cases (Desk.hasPermission device s.desk).1 with
    | true => exact .permitted task lock
    | false => exact .done task lock _ .refused
  | permitted =>
    refine ⟨[.opened device], rfl, ?_⟩
    unfold work
    generalize Host.openDevice device s.desk.registry = opened
    obtain ⟨r, machine⟩ := opened
    cases r with
    | crashed message => exact .done task lock _ .notOpened
    | finished r =>
      cases r with
      | error e => exact .done task lock _ .notOpened
      | ok medium => exact .serving task lock medium
  | serving => exact ⟨[.closed], rfl, .done task lock _ .closed⟩
  | done _ _ r h => exact ⟨[], (List.append_nil _).symm, by simpa using .done task lock r h⟩

/-- **A step of a call that has found its device** goes on in the script. -/
theorem follows_step {device : DeviceInfo} {task : DeviceTask} {t : List PlatformCall}
    (hi : s.calls[i]? = some c) (h : Follows device task c.phase t) :
    ∃ new p, Adds s (s.step i) i c new p ∧ (Follows device task p (t ++ new) ∨ p = .dropped) := by
  obtain ⟨method, phase, abandoned⟩ := c
  have hstays : s.step i = s → ∃ new p, Adds s (s.step i) i ⟨method, phase, abandoned⟩ new p ∧
      (Follows device task p (t ++ new) ∨ p = .dropped) := by
    intro hs
    rw [hs]
    exact ⟨[], phase, .none hi, .inl ((List.append_nil t).symm ▸ h)⟩
  have hwork : ∀ {task : FileTask} {lock : LockId} {w : Worker},
      Follows device (.files task) (.working device task lock w) t →
      s.step i = (s.work device task w).2.setPhase i
        (.working device task lock (s.work device task w).1) →
      ∃ new p, Adds s (s.step i) i ⟨method, phase, abandoned⟩ new p ∧
        (Follows device (.files task) p (t ++ new) ∨ p = .dropped) := by
    intro task lock w h hs
    obtain ⟨new, hlog, hfollows⟩ := log_work device task lock s h
    rw [hs]
    refine ⟨new, _, .phase hi ?_ hlog, .inl hfollows⟩
    unfold setPhase
    rw [calls_work]
  cases h with
  | looked r granted => exact hstays (by simp [step, hi])
  | granted r => exact hstays (by simp [step, hi])
  | answered r h => exact hstays (by simp [step, hi])
  | returned task r h => exact hstays (by simp [step, hi])
  | @waiting w t h =>
    -- a wait that is looked after asks nothing new of the user
    obtain ⟨new, hlog, hasking⟩ := Desk.adds_check device s.now w s.desk
    refine ⟨new, phaseOf device (Desk.check device s.now w s.desk).1, ?_, .inl ?_⟩
    · simp only [step, hi]
      exact .phase hi rfl hlog
    · cases (Desk.check device s.now w s.desk).1 with
      | waiting w' => exact .waiting w' (h.append hasking)
      | ended r => exact .answered _ (h.append hasking)
  | queued task lock =>
    by_cases hheld : s.isHeld lock = true
    · exact hstays (by simp [step, hi, hheld])
    · refine ⟨[], _, ?_, .inl (.starting task lock)⟩
      simp only [step, hi, if_neg hheld]
      exact .phase hi rfl (List.append_nil _).symm
  | starting task lock => exact hwork (.starting task lock) (by simp [step, hi])
  | permitted task lock => exact hwork (.permitted task lock) (by simp [step, hi])
  | serving task lock medium => exact hwork (.serving task lock medium) (by simp [step, hi])
  | done task lock r h =>
    simp only [step, hi]
    -- nobody waits for what the worker of an abandoned call has done
    cases abandoned with
    | true => exact ⟨[], _, .phase hi rfl (List.append_nil _).symm, .inr rfl⟩
    | false =>
      refine ⟨[], _, .phase hi rfl (List.append_nil _).symm, .inl ?_⟩
      rw [List.append_nil]
      exact .freed task r h
  | freed task r h =>
    obtain ⟨hcalls, hdesk⟩ := s.prune_frame device.deviceName
    simp only [step, hi]
    refine ⟨[], _, .phase hi (congrArg (List.modify · i _) hcalls) ?_, .inl ?_⟩
    · exact (congrArg (·.registry.log) hdesk).trans (List.append_nil _).symm
    · rw [List.append_nil]
      exact .returned task _ h

/-- **A step of a call goes on in its script.** -/
theorem onScript_step {t : List PlatformCall} (hi : s.calls[i]? = some c)
    (h : OnScript c.method c.phase t) :
    ∃ new p, Adds s (s.step i) i c new p ∧ OnScript c.method p (t ++ new) := by
  obtain ⟨method, phase, abandoned⟩ := c
  have hstays : s.step i = s → ∃ new p, Adds s (s.step i) i ⟨method, phase, abandoned⟩ new p ∧
      OnScript method p (t ++ new) := by
    intro hs
    rw [hs]
    exact ⟨[], phase, .none hi, (List.append_nil t).symm ▸ h⟩
  cases h with
  | listing =>
    refine ⟨[.listed (Host.attached s.desk.registry).1], _, ?_, .listed method _⟩
    simp only [step, hi]
    exact .phase hi rfl rfl
  | listed _ l =>
    simp only [step, hi]
    exact onScript_resolve hi l
  | devices r l => exact hstays (by simp [step, hi])
  | crashed v p task r message => exact hstays (by simp [step, hi])
  | notFound v p task l => exact hstays (by simp [step, hi])
  | @found v p task l device _ t hfound h =>
    obtain ⟨new, p, hadds, hfollows | rfl⟩ := follows_step hi h
    · exact ⟨new, p, hadds, .found hfound hfollows⟩
    · exact ⟨new, _, hadds, .dropped _ _⟩
  | dropped => exact hstays (by simp [step, hi])

/-! ## Nobody else moves a call -/

section Moves
variable {ρ : Type} [Registry ρ]

theorem resolve_moves (s : Service ρ) (i : Nat) (m : Method) (r : Job (List DeviceInfo)) :
    ∃ p, (s.resolve i m r).calls = s.calls.modify i fun c => { c with phase := p } := by
  cases r with
  | crashed message => cases m <;> exact ⟨_, rfl⟩
  | finished devices =>
    cases m with
    | getDevices => exact ⟨_, rfl⟩
    | onDevice v p task =>
      simp only [resolve]
      cases Discovery.find? devices v p with
      | none => exact ⟨_, rfl⟩
      | some device =>
        cases task with
        | hasPermission => exact ⟨_, rfl⟩
        | requestPermission => exact ⟨_, rfl⟩
        | files task =>
          obtain ⟨hcalls, -⟩ :=
            lockOf_frame { s with desk := s.desk.retain devices } device.deviceName
          exact ⟨_, congrArg (List.modify · i _) hcalls⟩

/-- A step moves one call, if any. -/
theorem step_moves [Host ρ] (s : Service ρ) (i : Nat) :
    (s.step i).calls = s.calls ∨
      ∃ p, (s.step i).calls = s.calls.modify i fun c => { c with phase := p } := by
  unfold step
  cases s.calls[i]? with
  | none => exact .inl rfl
  | some c =>
    dsimp only
    cases c.phase with
    | listing => exact .inr ⟨_, rfl⟩
    | listed r => exact .inr (resolve_moves s i c.method r)
    | negotiating device w => exact .inr ⟨_, rfl⟩
    | queued device task lock =>
      dsimp only
      split
      · exact .inl rfl
      · exact .inr ⟨_, rfl⟩
    | working device task lock w =>
      have hwork : ∀ p, ((s.work device task w).2.setPhase i p).calls =
          s.calls.modify i fun c => { c with phase := p } :=
        fun p => congrArg (List.modify · i _) (calls_work s device task w)
      cases w with
      | done r => exact .inr ⟨_, rfl⟩
      | _ => exact .inr ⟨_, hwork _⟩
    | freed device r =>
      exact .inr ⟨_, congrArg (List.modify · i _) (s.prune_frame device.deviceName).1⟩
    | _ => exact .inl rfl

/-- A caller who gives up ends its own call, unless a worker goes on with it. -/
theorem call_drop {s : Service ρ} {i : Nat} {c : Call} (hi : s.calls[i]? = some c) (j : Nat) :
    ∃ c', (s.drop j).calls[i]? = some c' ∧
      (c' = c ∨ c' = { c with abandoned := true } ∨
        c' = { c with phase := .dropped } ∧ ∀ r, c.phase ≠ .over r) := by
  by_cases hij : j = i
  · subst hij
    have hmodify : ∀ f : Call → Call, (s.calls.modify j f)[j]? = some (f c) := by
      intro f
      rw [List.getElem?_modify_eq, hi]
      rfl
    obtain ⟨method, phase, abandoned⟩ := c
    unfold drop
    rw [hi]
    cases phase with
    | working device task lock w => exact ⟨_, hmodify _, .inr (.inl rfl)⟩
    | negotiating device w => exact ⟨_, hmodify _, .inr (.inr ⟨rfl, by simp⟩)⟩
    | listing => exact ⟨_, hmodify _, .inr (.inr ⟨rfl, by simp⟩)⟩
    | listed r => exact ⟨_, hmodify _, .inr (.inr ⟨rfl, by simp⟩)⟩
    | queued device task lock => exact ⟨_, hmodify _, .inr (.inr ⟨rfl, by simp⟩)⟩
    | freed device r => exact ⟨_, hmodify _, .inr (.inr ⟨rfl, by simp⟩)⟩
    | dropped => exact ⟨_, hmodify _, .inr (.inr ⟨rfl, by simp⟩)⟩
    | _ => exact ⟨_, hi, .inl rfl⟩
  · have hmodify : ∀ f : Call → Call, (s.calls.modify j f)[i]? = some c :=
      fun f => (List.getElem?_modify_ne _ _ hij).trans hi
    refine ⟨c, ?_, .inl rfl⟩
    unfold drop
    cases s.calls[j]? with
    | none => exact hi
    | some c' =>
      dsimp only
      cases c'.phase <;> first | exact hmodify _ | exact hi

end Moves

/-- **What a call keeps all along**, with the calls to the machine that it makes: what its own steps
keep, and what is left to it if its caller gives up. -/
theorem call_afterAll {P : Call → List PlatformCall → Prop}
    (hstep : ∀ {s : Service (Recorded π)} {c t}, s.calls[i]? = some c → P c t →
      ∃ new p, Adds s (s.step i) i c new p ∧ P { c with phase := p } (t ++ new))
    (habandoned : ∀ {c t}, P c t → P { c with abandoned := true } t)
    (hdropped : ∀ {c t}, P c t → (∀ r, c.phase ≠ .over r) → P { c with phase := .dropped } t)
    {t : List PlatformCall} (hi : s.calls[i]? = some c) (h : P c t)
    (history : List (Happening π)) :
    ∃ c', (s.afterAll (history.map Happening.seen)).calls[i]? = some c' ∧
      P c' (t ++ logOf i s history) := by
  induction history generalizing s c t with
  | nil => exact ⟨c, hi, (List.append_nil t).symm ▸ h⟩
  | cons x history ih =>
    cases x with
    | start method args =>
      refine ih ((List.getElem?_append_left ?_).trans hi) h
      exact (List.getElem?_eq_some_iff.mp hi).1
    | machine change => exact ih hi h
    | clock now => exact ih hi h
    | drop j =>
      obtain ⟨c', hi', rfl | rfl | ⟨rfl, hover⟩⟩ := call_drop hi j
      · exact ih hi' h
      · exact ih hi' (habandoned h)
      · exact ih hi' (hdropped h hover)
    | step j =>
      by_cases hij : j = i
      · subst hij
        -- what the step adds to the record is what `logOf` takes for its own
        obtain ⟨new, p, hadds, hp⟩ := hstep hi h
        have hnew : (s.step j).log.drop s.log.length = new := by
          rw [hadds.log, List.drop_left]
        obtain ⟨c', hc', hP⟩ := ih hadds.call hp
        refine ⟨c', hc', ?_⟩
        rw [List.append_assoc] at hP
        simp only [logOf, if_true, after, Happening.seen, hnew]
        exact hP
      · have hi' : (s.step j).calls[i]? = some c := by
          rcases step_moves s j with hcalls | ⟨p, hcalls⟩
          · rw [hcalls, hi]
          · rw [hcalls, List.getElem?_modify_ne _ _ hij, hi]
        obtain ⟨c', hc', hP⟩ := ih hi' h
        refine ⟨c', hc', ?_⟩
        simp only [logOf, if_neg hij, List.nil_append]
        exact hP

/-! ## Whole calls -/

theorem calls_afterAll (s : Service π) (history : List (Happening π)) :
    (s.recorded.afterAll (history.map Happening.seen)).calls = (s.afterAll history).calls :=
  congrArg Service.calls (plain_afterAll s.recorded history)

/-- **A call follows the script of its operation**, whatever else happens. -/
theorem onScript_call (s : Service π) {name : String} {args : Json} {m : Method}
    (hm : Method.ofCall name args = .ok m) (history : List (Happening π)) :
    ∃ c, (s.afterAll (.start name args :: history)).calls[s.calls.length]? = some c ∧
      c.method = m ∧
      OnScript m c.phase (s.platformCalls s.calls.length (.start name args :: history)) := by
  have hstart : (s.recorded.start name args).calls[s.calls.length]? = some { method := m } := by
    simp [start, hm, recorded, map]
  have hstep : ∀ {s' : Service (Recorded π)} {c t}, s'.calls[s.calls.length]? = some c →
      (c.method = m ∧ OnScript m c.phase t) →
      ∃ new p, Adds s' (s'.step s.calls.length) s.calls.length c new p ∧
        c.method = m ∧ OnScript m p (t ++ new) := by
    rintro s' c t hi ⟨rfl, h⟩
    obtain ⟨new, p, hadds, hp⟩ := onScript_step hi h
    exact ⟨new, p, hadds, rfl, hp⟩
  obtain ⟨c, hc, hmethod, hscript⟩ :=
    call_afterAll (P := fun c t => c.method = m ∧ OnScript m c.phase t) hstep (fun h => h)
      (fun h _ => ⟨h.1, .dropped _ _⟩) hstart ⟨rfl, .listing m⟩ history
  refine ⟨c, ?_, hmethod, hscript⟩
  rw [← calls_afterAll]
  exact hc

/-- A call that could not be understood stays as it is. -/
theorem refused_call (s : Service π) {name : String} {args : Json} {e : StorageError}
    (he : Method.ofCall name args = .error e) (history : List (Happening π)) :
    ∃ c, (s.afterAll (.start name args :: history)).calls[s.calls.length]? = some c ∧
      c.phase = .over (.error e) ∧
      s.platformCalls s.calls.length (.start name args :: history) = [] := by
  have hstart : (s.recorded.start name args).calls[s.calls.length]? =
      some { method := .getDevices, phase := .over (.error e) } := by
    simp [start, he, recorded, map]
  have hstep : ∀ {s' : Service (Recorded π)} {c t}, s'.calls[s.calls.length]? = some c →
      (c.phase = .over (.error e) ∧ t = []) →
      ∃ new p, Adds s' (s'.step s.calls.length) s.calls.length c new p ∧
        p = .over (.error e) ∧ t ++ new = [] := by
    rintro s' c t hi ⟨hphase, rfl⟩
    have hstays : s'.step s.calls.length = s' := by simp [step, hi, hphase]
    rw [hstays]
    exact ⟨[], c.phase, .none hi, hphase, rfl⟩
  obtain ⟨c, hc, hphase, hnone⟩ :=
    call_afterAll (P := fun c t => c.phase = .over (.error e) ∧ t = []) hstep (fun h => h)
      (fun h hover => absurd h.1 (hover _)) hstart ⟨rfl, rfl⟩ history
  refine ⟨c, ?_, hphase, hnone⟩
  rw [← calls_afterAll]
  exact hc

omit [Registry π] [Host π] in
theorem phase_of_result? {s : Service π} {i : Nat} {c : Call} {r : Except StorageError Answer}
    (hi : s.calls[i]? = some c) (h : s.result? i = some r) : c.phase = .over r := by
  unfold result? at h
  rw [hi] at h
  cases hp : c.phase <;> simp_all

/-- A call that only looks leaves the devices of the bus alone, and the access to them. -/
theorem devices_step {s : Service Bus} {i : Nat} {c : Call} {t : List PlatformCall}
    (hi : s.calls[i]? = some c) (hm : c.method.onlyLooks = true) (h : OnScript c.method c.phase t) :
    (s.step i).desk.registry.devices = s.desk.registry.devices := by
  obtain ⟨method, phase, abandoned⟩ := c
  unfold step
  rw [hi]
  cases h with
  | listing =>
    show (Host.attached s.desk.registry).2.devices = _
    simp only [Host.attached]
    split <;> rfl
  | listed _ l =>
    cases method with
    | getDevices => cases l <;> rfl
    | onDevice v p task =>
      cases task with
      | hasPermission =>
        cases l with
        | crashed message => rfl
        | finished l =>
          simp only [Discovery.found, resolve]
          cases Discovery.find? (Discovery.devices l) v p <;> rfl
      | _ => cases hm
  | @found v p task l device _ t hfound h =>
    cases h with
    | looked r granted => rfl
    | _ => cases hm
  | _ => rfl

/-- **What a call asks of a bus.**  A call that cannot be understood asks for nothing and answers
that its arguments are wrong.  Any other call behaves as its operation has to (`Conduct`); and who
only looks changes neither the devices nor the access to them.  This holds of every call that comes
to an answer, in whatever state the service and the bus are when it begins, for both ways to wait,
and whatever happens in the meantime.  That the calls to the bus are recorded changes nothing. -/
theorem conduct_of_answered_call (s : Service Bus) (name : String) (args : Json)
    (history : List (Happening Bus)) {r : Except StorageError Answer}
    (hanswer : (s.afterAll (.start name args :: history)).result? s.calls.length = some r) :
    let i := s.calls.length
    let t := s.platformCalls i (.start name args :: history)
    (∀ e, Method.ofCall name args = .error e →
      t = [] ∧ r = .error e ∧ ∃ text, e = .invalidArgument text) ∧
    (∀ m, Method.ofCall name args = .ok m → Conduct m t r ∧
      (m.onlyLooks = true → ∀ before later, history = before ++ .step i :: later →
        ((s.afterAll (.start name args :: before)).step i).desk.registry.devices =
          (s.afterAll (.start name args :: before)).desk.registry.devices)) ∧
    (s.recorded.afterAll ((.start name args :: history).map Happening.seen)).plain =
      s.afterAll (.start name args :: history) := by
  intro i t
  have hphase : ∀ {c}, (s.afterAll (.start name args :: history)).calls[i]? = some c →
      c.phase = .over r := fun hc => phase_of_result? hc hanswer
  refine ⟨?_, ?_, plain_afterAll s.recorded _⟩
  · intro e he
    obtain ⟨c, hc, hover, hnone⟩ := refused_call s he history
    have hr : Phase.over r = .over (.error e) := (hphase hc).symm.trans hover
    cases hr
    exact ⟨hnone, rfl, Method.invalidArgument_of_ofCall he⟩
  · intro m hm
    refine ⟨?_, ?_⟩
    · obtain ⟨c, hc, -, hscript⟩ := onScript_call s hm history
      rw [hphase hc] at hscript
      exact hscript.conduct
    · intro hlooks before later hbefore
      obtain ⟨c, hc, hmethod, hscript⟩ := onScript_call s hm before
      exact devices_step hc (hmethod ▸ hlooks) (hmethod ▸ hscript)

/-- A user who grants access is asked once, and nothing is opened. -/
theorem conduct_of_answered_call_asked :
    let bus := ({} : Bus).attach ⟨"usb1", none, none, 1, 2⟩ (.unreadable 8)
    let args : Json := .obj [("vendorId", .nat 1), ("productId", .nat 2)]
    let s : Service Bus := { desk := { registry := bus, config := .default } }
    let history : List (Happening Bus) := [.step 0, .step 0]
    let t := s.platformCalls 0 (.start "requestPermission" args :: history)
    (s.afterAll (.start "requestPermission" args :: history)).result? 0 =
        some (.ok (.granted true)) ∧
      t.findSome? PlatformCall.granted? = some false ∧ t.countP PlatformCall.isRequest = 1 ∧
      Conduct (.onDevice 1 2 .requestPermission) t (.ok (.granted true)) := by
  intro bus args s history t
  have hanswer : (s.afterAll (.start "requestPermission" args :: history)).result? 0 =
      some (.ok (.granted true)) := rfl
  have hconduct : Conduct (.onDevice 1 2 .requestPermission) t (.ok (.granted true)) :=
    ((conduct_of_answered_call s "requestPermission" args history hanswer).2.1 _ rfl).1
  have hfirst : t.findSome? PlatformCall.granted? = some false := rfl
  exact ⟨hanswer, hfirst, by rw [(hconduct.prompts 1 2 rfl).2, if_pos hfirst], hconduct⟩

end Service
end ThumbDrive
