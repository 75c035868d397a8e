import ThumbDrive.Host.Bus
import ThumbDrive.Service.Call

/-! # One open device per name

A call takes the handle of its device's lock from the table in one step, waits for the lock in the
next, and looks at the table again long after it has given the lock back.  Between these steps
other calls do theirs, callers give up, and devices come and go.  Two calls would work on one
device at the same time if they had handles of *different* locks for it.

`Guarded` excludes that: every handle is the one the table has for the name, and nobody shares a
held lock.  An entry is dropped only when no call has a handle of its lock (`Guarded.prune`), so
the first part is kept; a lock is taken only when nobody holds it, so the second is.  Nothing is
needed about the machine, the permission desk or the clock. -/
namespace ThumbDrive

namespace Phase

/-- The device name and the lock of a call that waits for a lock or holds it. -/
def lease? : Phase → Option (String × LockId)
  | .queued device _ lock => some (device.deviceName, lock)
  | .working device _ lock _ => some (device.deviceName, lock)
  | _ => none

/-- The name of the device that a call has open: its worker has opened it and not closed it. -/
def openName? : Phase → Option String
  | .working device _ _ (.serving _) => some device.deviceName
  | _ => none

theorem handle?_eq_lease? (p : Phase) : p.handle? = p.lease?.map Prod.snd := by
  cases p <;> rfl

/-- Who holds a lock has a handle of it. -/
theorem held?_of_lease?_none {p : Phase} (h : p.lease? = none) : p.held? = none := by
  cases p <;> first | rfl | cases h

/-- Who has a device open holds a lock under its name. -/
theorem held?_of_openName? {p : Phase} {name : String} (h : p.openName? = some name) :
    ∃ lock, p.lease? = some (name, lock) ∧ p.held? = some lock := by
  unfold openName? at h
  split at h
  · next device task lock medium =>
    cases h
    exact ⟨lock, rfl, rfl⟩
  · cases h

end Phase

namespace Service

/-! ## What the table and the calls have to do with each other -/

/-- **Locks guard devices.**  Every call that waits for a lock or holds it has the lock that the
table has for its device, and no two calls hold the same lock. -/
structure Guarded (table : List (String × LockId)) (calls : List Call) : Prop where
  mapped : ∀ {i : Nat} {c : Call} {name lock}, calls[i]? = some c →
    c.phase.lease? = some (name, lock) → table.lookup name = some lock
  exclusive : ∀ {i j : Nat} {c c' : Call} {lock}, calls[i]? = some c → calls[j]? = some c' →
    c.phase.held? = some lock → c'.phase.held? = some lock → i = j

/-- If one call of a list changes, a call of the new list is the changed one, or was there before.
-/
theorem modify_cases {calls : List Call} {i j : Nat} {f : Call → Call} {c : Call}
    (h : (calls.modify i f)[j]? = some c) :
    (j = i ∧ ∃ c₀, calls[i]? = some c₀ ∧ c = f c₀) ∨ (j ≠ i ∧ calls[j]? = some c) := by
  rw [List.getElem?_modify] at h
  obtain ⟨c₀, hc₀, rfl⟩ := Option.map_eq_some_iff.mp h
  by_cases hij : i = j
  · subst hij
    exact .inl ⟨rfl, c₀, hc₀, if_pos rfl⟩
  · exact .inr ⟨fun hji => hij hji.symm, by rw [if_neg hij]; exact hc₀⟩

/-- One more call at the end. -/
theorem append_cases {calls : List Call} {c c' : Call} {j : Nat}
    (h : (calls ++ [c])[j]? = some c') : calls[j]? = some c' ∨ c' = c := by
  rw [List.getElem?_append] at h
  split at h
  · exact .inl h
  · exact .inr (List.mem_singleton.mp (List.mem_of_getElem? h))

namespace Guarded
variable {table : List (String × LockId)} {calls : List Call}

theorem nil : Guarded table [] :=
  ⟨fun h => by simp at h, fun h => by simp at h⟩

/-- One call changes.  Its new handle, if it has one, is that of the table; its new lock, if it
holds one, is held by no other call. -/
theorem modify (h : Guarded table calls) (i : Nat) (f : Call → Call)
    (hmap : ∀ c name lock, calls[i]? = some c → (f c).phase.lease? = some (name, lock) →
      table.lookup name = some lock)
    (hheld : ∀ c lock, calls[i]? = some c → (f c).phase.held? = some lock →
      ∀ j c', calls[j]? = some c' → c'.phase.held? = some lock → j = i) :
    Guarded table (calls.modify i f) := by
  refine ⟨?_, ?_⟩
  · intro j c name lock hj hl
    rcases modify_cases hj with ⟨rfl, c₀, hc₀, rfl⟩ | ⟨-, hc⟩
    · exact hmap c₀ name lock hc₀ hl
    · exact h.mapped hc hl
  · intro j j' c c' lock hj hj' hl hl'
    rcases modify_cases hj with ⟨rfl, c₀, hc₀, rfl⟩ | ⟨-, hc⟩ <;>
      rcases modify_cases hj' with ⟨rfl, c₁, hc₁, rfl⟩ | ⟨-, hc'⟩
    · rfl
    · exact (hheld c₀ lock hc₀ hl j' c' hc' hl').symm
    · exact hheld c₁ lock hc₁ hl' j c hc hl
    · exact h.exclusive hc hc' hl hl'

/-- A call goes on without a lock. -/
theorem leave (h : Guarded table calls) (i : Nat) {p : Phase} (hp : p.lease? = none) :
    Guarded table (calls.modify i fun c => { c with phase := p }) := by
  refine h.modify i _ ?_ ?_
  · intro c name lock _ hl
    cases hp.symm.trans hl
  · intro c lock _ hl
    cases (Phase.held?_of_lease?_none hp).symm.trans hl

/-- A call goes on with the lock it has, and holds it only if it held it. -/
theorem keep (h : Guarded table calls) {i : Nat} {c : Call} (hi : calls[i]? = some c)
    (f : Call → Call) (hlease : (f c).phase.lease? = c.phase.lease?)
    (hheld : (f c).phase.held? = c.phase.held?) : Guarded table (calls.modify i f) := by
  refine h.modify i f ?_ ?_
  · intro c₀ name lock hc₀ hl
    cases hi.symm.trans hc₀
    exact h.mapped hi (hlease ▸ hl)
  · intro c₀ lock hc₀ hl j c' hj hl'
    cases hi.symm.trans hc₀
    exact h.exclusive hj hi hl' (hheld ▸ hl)

/-- A call begins without a lock. -/
theorem append (h : Guarded table calls) {c : Call} (hc : c.phase.lease? = none) :
    Guarded table (calls ++ [c]) := by
  refine ⟨?_, ?_⟩
  · intro j c' name lock hj hl
    rcases append_cases hj with hj | rfl
    · exact h.mapped hj hl
    · cases hc.symm.trans hl
  · intro j j' c₁ c₂ lock hj hj' hl hl'
    rcases append_cases hj with hj | rfl
    · rcases append_cases hj' with hj' | rfl
      · exact h.exclusive hj hj' hl hl'
      · cases (Phase.held?_of_lease?_none hc).symm.trans hl'
    · cases (Phase.held?_of_lease?_none hc).symm.trans hl

/-- The table gets new entries. -/
theorem extend (h : Guarded table calls) {table' : List (String × LockId)}
    (ht : ∀ {name lock}, table.lookup name = some lock → table'.lookup name = some lock) :
    Guarded table' calls :=
  ⟨fun hc hl => ht (h.mapped hc hl), h.exclusive⟩

end Guarded

/-! ## The operations on the table -/

variable {π : Type}

/-- To look a lock up concerns neither the calls nor the desk. -/
theorem lockOf_frame (s : Service π) (name : String) :
    (s.lockOf name).2.calls = s.calls ∧ (s.lockOf name).2.desk = s.desk := by
  unfold lockOf
  split <;> exact ⟨rfl, rfl⟩

/-- To drop an entry concerns neither the calls nor the desk. -/
theorem prune_frame (s : Service π) (name : String) :
    (s.prune name).calls = s.calls ∧ (s.prune name).desk = s.desk := by
  unfold prune
  split
  · split <;> exact ⟨rfl, rfl⟩
  · exact ⟨rfl, rfl⟩

/-- The lock of a device is in the table once it was asked for, and all others stay. -/
theorem guarded_lockOf {s : Service π} (h : Guarded s.locks s.calls) (name : String) :
    Guarded (s.lockOf name).2.locks (s.lockOf name).2.calls ∧
      (s.lockOf name).2.locks.lookup name = some (s.lockOf name).1 := by
  unfold lockOf
  cases hl : s.locks.lookup name with
  | some lock => exact ⟨h, hl⟩
  | none =>
    refine ⟨h.extend fun {other lock} hother => ?_, ?_⟩
    · rw [List.lookup_append, hother]
      rfl
    · rw [List.lookup_append, hl]
      simp

/-- The entry that is dropped is that of a lock of which no call has a handle. -/
theorem guarded_prune {s : Service π} (h : Guarded s.locks s.calls) (name : String) :
    Guarded (s.prune name).locks (s.prune name).calls := by
  unfold prune
  cases hl : s.locks.lookup name with
  | none => exact h
  | some lock =>
    dsimp only
    split
    · exact h
    · next hfree =>
      refine ⟨?_, h.exclusive⟩
      intro i c other lock' hi hlease
      have hmapped := h.mapped hi hlease
      have hne : other ≠ name := by
        rintro rfl
        obtain rfl : lock = lock' := Option.some.inj (hl.symm.trans hmapped)
        refine hfree (List.any_eq_true.mpr ⟨c, List.mem_of_getElem? hi, ?_⟩)
        rw [Phase.handle?_eq_lease?, hlease]
        exact beq_self_eq_true _
      rw [Desk.lookup_filter_ne hne]
      exact hmapped

/-- A free lock is held by no call. -/
theorem not_held {s : Service π} {lock : LockId} (h : ¬ s.isHeld lock = true) {i : Nat} {c : Call}
    (hi : s.calls[i]? = some c) : c.phase.held? ≠ some lock := by
  intro hheld
  refine h (List.any_eq_true.mpr ⟨c, List.mem_of_getElem? hi, ?_⟩)
  rw [hheld]
  exact beq_self_eq_true _

/-- Who negotiates has no lock. -/
theorem lease?_phaseOf (device : DeviceInfo) (n : Negotiation) :
    (phaseOf device n).lease? = none := by
  cases n <;> rfl

/-! ## The steps of a call -/

theorem guarded_start {s : Service π} (h : Guarded s.locks s.calls) (name : String) (args : Json) :
    Guarded (s.start name args).locks (s.start name args).calls := by
  refine h.append ?_
  cases Method.ofCall name args <;> rfl

variable [Registry π]

/-- A caller who gives up takes its handle along, unless its worker goes on with it. -/
theorem guarded_drop {s : Service π} (h : Guarded s.locks s.calls) (i : Nat) :
    Guarded (s.drop i).locks (s.drop i).calls := by
  unfold drop
  cases hi : s.calls[i]? with
  | none => exact h
  | some c =>
    dsimp only
    cases c.phase with
    | working device task lock w => exact h.keep hi _ rfl rfl
    | _ => first | exact h.leave i rfl | exact h

/-- A call goes on with its device: only who works on files gets a handle. -/
theorem guarded_proceed {s : Service π} (h : Guarded s.locks s.calls) (i : Nat) (task : DeviceTask)
    (device : DeviceInfo) :
    Guarded (s.proceed i task device).locks (s.proceed i task device).calls := by
  cases task with
  | hasPermission => exact h.leave i rfl
  | requestPermission => exact h.leave i (lease?_phaseOf device _)
  | files task =>
    obtain ⟨h', hlock⟩ := guarded_lockOf h device.deviceName
    refine h'.modify i _ ?_ ?_
    · intro c name lock _ hl
      cases hl
      exact hlock
    · intro c lock _ hl
      cases hl

theorem guarded_resolve {s : Service π} (h : Guarded s.locks s.calls) (i : Nat) (m : Method)
    (r : Job (List DeviceInfo)) : Guarded (s.resolve i m r).locks (s.resolve i m r).calls := by
  cases r with
  | crashed message => cases m <;> exact h.leave i rfl
  | finished devices =>
    cases m with
    | getDevices => exact h.leave i rfl
    | onDevice v p task =>
      simp only [resolve]
      cases Discovery.find? devices v p with
      | none => exact h.leave i rfl
      | some device =>
        have h' : Guarded { s with desk := s.desk.retain devices }.locks
          { s with desk := s.desk.retain devices }.calls := h
        exact guarded_proceed h' i task device

variable [Host π]

theorem calls_work (s : Service π) (device : DeviceInfo) (task : FileTask) (w : Worker) :
    (s.work device task w).2.calls = s.calls := by
  cases w <;> rfl

/-- **A step of a call keeps the locks.** -/
theorem guarded_step {s : Service π} (h : Guarded s.locks s.calls) (i : Nat) :
    Guarded (s.step i).locks (s.step i).calls := by
  unfold step
  cases hi : s.calls[i]? with
  | none => exact h
  | some c =>
    dsimp only
    cases hp : c.phase with
    | listing => exact h.leave i rfl
    | listed r => exact guarded_resolve h i c.method r
    | negotiating device w => exact h.leave i (lease?_phaseOf device _)
    | queued device task lock =>
      dsimp only
      split
      · exact h
      · next hfree =>
        refine h.modify i _ ?_ ?_
        · intro c₀ name lock' hc₀ hl
          cases hl
          exact h.mapped hi (by rw [hp]; rfl)
        · intro c₀ lock' hc₀ hl j c' hj hl'
          cases hl
          exact absurd hl' (not_held hfree hj)
    | working device task lock w =>
      cases w with
      | done r =>
        dsimp only
        split
        · exact h.leave i rfl
        · exact h.leave i rfl
      | starting => exact h.keep hi _ (by rw [hp]; rfl) (by rw [hp]; rfl)
      | permitted => exact h.keep hi _ (by rw [hp]; rfl) (by rw [hp]; rfl)
      | serving medium => exact h.keep hi _ (by rw [hp]; rfl) (by rw [hp]; rfl)
    | freed device r => exact (guarded_prune h device.deviceName).leave i rfl
    | _ => exact h

/-! ## Runs -/

/-- What may happen to a service and its machine. -/
inductive Happening (π : Type) where
  /-- A call is made. -/
  | start (method : String) (args : Json)
  /-- A call does its next step. -/
  | step (i : Nat)
  /-- The caller of a call gives up. -/
  | drop (i : Nat)
  /-- Devices are attached or detached, access is granted or revoked, the user answers. -/
  | machine (change : π → π)
  /-- Time passes. -/
  | clock (now : Nat)

/-- A service after something has happened. -/
def after (s : Service π) : Happening π → Service π
  | .start method args => s.start method args
  | .step i => s.step i
  | .drop i => s.drop i
  | .machine change => s.onMachine change
  | .clock now => { s with now }

/-- A service after all that has happened, in order. -/
def afterAll (s : Service π) (history : List (Happening π)) : Service π :=
  history.foldl after s

theorem guarded_after {s : Service π} (h : Guarded s.locks s.calls) (x : Happening π) :
    Guarded (s.after x).locks (s.after x).calls := by
  cases x with
  | start method args => exact guarded_start h method args
  | step i => exact guarded_step h i
  | drop i => exact guarded_drop h i
  | machine change => exact h
  | clock now => exact h

theorem guarded_afterAll {s : Service π} (h : Guarded s.locks s.calls)
    (history : List (Happening π)) :
    Guarded (s.afterAll history).locks (s.afterAll history).calls := by
  induction history generalizing s with
  | nil => exact h
  | cons x history ih => exact ih (guarded_after h x)

/-- Calls that have a device of the same name open are one call. -/
theorem Guarded.open_unique {table : List (String × LockId)} {calls : List Call}
    (h : Guarded table calls) {i j : Nat} {c c' : Call} {name : String} (hi : calls[i]? = some c)
    (hj : calls[j]? = some c') (ho : c.phase.openName? = some name)
    (ho' : c'.phase.openName? = some name) : i = j := by
  obtain ⟨lock, hlease, hheld⟩ := Phase.held?_of_openName? ho
  obtain ⟨lock', hlease', hheld'⟩ := Phase.held?_of_openName? ho'
  have hsame : lock = lock' :=
    Option.some.inj ((h.mapped hi hlease).symm.trans (h.mapped hj hlease'))
  exact h.exclusive hi hj hheld (hsame ▸ hheld')

/-- A property that at most one place of a list has. -/
theorem countP_le_one {α : Type} {q : α → Bool} {l : List α}
    (h : ∀ {i j : Nat} {a b}, l[i]? = some a → l[j]? = some b → q a → q b → i = j) :
    l.countP q ≤ 1 := by
  induction l with
  | nil => exact Nat.zero_le 1
  | cons a l ih =>
    have hl : l.countP q ≤ 1 := ih fun {i j} _ _ hi hj ha hb =>
      Nat.succ.inj (h (i := i + 1) (j := j + 1) hi hj ha hb)
    by_cases ha : q a
    · have hzero : l.countP q = 0 := by
        refine List.countP_eq_zero.mpr fun b hb hq => ?_
        obtain ⟨j, hj⟩ := List.mem_iff_getElem?.mp hb
        exact Nat.succ_ne_zero j (h (i := j + 1) (j := 0) hj rfl hq ha)
      have hone : (a :: l).countP q = 1 := by rw [List.countP_cons_of_pos ha, hzero]
      exact Nat.le_of_eq hone
    · rwa [List.countP_cons_of_neg ha]

/-- **At most one device is open under a name**, whatever calls are made, however their steps
mingle, whoever gives up, and whatever happens to the machine.  And a call that waits for a lock or
holds it has the lock that the table has for the name of its device. -/
theorem one_open_device_per_name (desk : Desk π) (history : List (Happening π)) :
    let s := Service.afterAll { desk } history
    (∀ name, s.calls.countP (fun c => c.phase.openName? == some name) ≤ 1) ∧
    ∀ c ∈ s.calls, ∀ name lock, c.phase.lease? = some (name, lock) →
      s.locks.lookup name = some lock := by
  intro s
  have h : Guarded s.locks s.calls := guarded_afterAll Guarded.nil history
  refine ⟨fun name => countP_le_one ?_, ?_⟩
  · intro i j c c' hi hj ho ho'
    exact h.open_unique hi hj (eq_of_beq ho) (eq_of_beq ho')
  · intro c hc name lock hlease
    obtain ⟨i, hi⟩ := List.mem_iff_getElem?.mp hc
    exact h.mapped hi hlease

-- The first call is done and drops nothing from the table, because the second one had taken the
-- handle of the same lock in the meantime; the second has the device open now.
example :
    let stick : DeviceInfo := ⟨"usb1", none, none, 1, 2⟩
    let bus := (({} : Bus).attach stick (.unreadable 8)).setGranted "usb1" true
    let args : Json := .obj [("vendorId", .nat 1), ("productId", .nat 2), ("path", .str "/")]
    let s := Service.afterAll { desk := { registry := bus, config := .default } }
      [.start "readdir" args, .start "read" args, .step 0, .step 1, .step 0, .step 1,
        .step 0, .step 0, .step 0, .step 0, .step 0, .step 1, .step 0, .step 1, .step 1]
    s.locks = [("usb1", 0)] ∧
      s.calls.map (fun c => (c.phase.lease?, c.phase.openName?)) =
        [(none, none), (some ("usb1", 0), some "usb1")] := by
  decide +kernel

end Service
end ThumbDrive
