import Mathlib.Data.List.Induction
import ThumbDrive.Proofs.Locks

/-! # Who the entries of the table belong to

The table of locks gets an entry when a call about files asks for the lock of its device.  The entry
is dropped by a call that returns and finds that nobody else has a handle of the lock.  Giving the
lock back and looking at the table are two steps, and any other call may come between them.

`Tenanted` says who is responsible for an entry: a call that will look at it in the end (`tends?`),
because it waits for the lock, holds it, or has given it back already.  A call that returns and
leaves the entry hands it on to whoever has a handle.  That may be the worker of a caller who has
given up, and then nobody is left to look; so the invariant has a second part, the entries `left`
behind by callers who gave up.  `Goes` says once what anything that happens does to the table. -/
namespace ThumbDrive

/-- Whether an operation reads files, and so needs the lock of its device. -/
def Method.onFiles : Method → Bool
  | .onDevice _ _ (.files _) => true
  | _ => false

namespace Phase

/-- The device whose entry in the table a call has yet to look at. -/
def tends? : Phase → Option String
  | .queued device _ _ => some device.deviceName
  | .working device _ _ _ => some device.deviceName
  | .freed device _ => some device.deviceName
  | _ => none

theorem tends?_of_lease? {p : Phase} {name : String} {lock : LockId}
    (h : p.lease? = some (name, lock)) : p.tends? = some name := by
  cases p <;> cases h <;> rfl

theorem lease?_of_tends?_none {p : Phase} (h : p.tends? = none) : p.lease? = none := by
  cases p <;> cases h <;> rfl

theorem lease?_of_handle? {p : Phase} {lock : LockId} (h : p.handle? = some lock) :
    ∃ name, p.lease? = some (name, lock) := by
  cases p <;> cases h <;> exact ⟨_, rfl⟩

end Phase

namespace Service

/-! ## What happens to the table -/

/-- The table and the calls, apart from the rest of a service. -/
structure Ledger where
  locks : List (String × LockId)
  nextLock : LockId
  calls : List Call

namespace Ledger

/-- Puts a call into another phase. -/
def setPhase (i : Nat) (phase : Phase) (l : Ledger) : Ledger :=
  { l with calls := l.calls.modify i fun c => { c with phase } }

/-- The lock of a device is looked up in the table, or becomes a new entry. -/
inductive Takes (l : Ledger) (name : String) : LockId → List (String × LockId) → LockId → Prop where
  | found {lock : LockId} (h : l.locks.lookup name = some lock) :
      Takes l name lock l.locks l.nextLock
  | made (h : l.locks.lookup name = none) :
      Takes l name l.nextLock (l.locks ++ [(name, l.nextLock)]) (l.nextLock + 1)

/-- The entry of a device is dropped, unless there is none or some call has a handle of its lock. -/
inductive Prunes (l : Ledger) (name : String) : List (String × LockId) → Prop where
  | absent (h : l.locks.lookup name = none) : Prunes l name l.locks
  | needed {j : Nat} {c : Call} {lock : LockId} (h : l.locks.lookup name = some lock)
      (hj : l.calls[j]? = some c) (hc : c.phase.handle? = some lock) : Prunes l name l.locks
  | dropped : Prunes l name (l.locks.filter fun (n, _) => n != name)

/-- **What one incident does to the table and the calls.**  If a caller gives up who would have
looked at the entry of a device, the name of the device is told. -/
inductive Goes (l : Ledger) : Option String → Ledger → Prop where
  | stays : Goes l none l
  | begins {c : Call} (hc : c.phase.tends? = none) (ha : c.abandoned = false) :
      Goes l none { l with calls := l.calls ++ [c] }
  /-- A call goes on, and tends the same entry as before, or none as before. -/
  | keeps {i : Nat} {c : Call} {p : Phase} (hi : l.calls[i]? = some c)
      (htends : p.tends? = c.phase.tends?) (hdropped : c.phase = .dropped → p = .dropped)
      (hlease : c.abandoned = true → p.lease? = c.phase.lease?) : Goes l none (l.setPhase i p)
  | takes {i : Nat} {c : Call} {device : DeviceInfo} {task : FileTask} {lock next : LockId}
      {locks : List (String × LockId)} (hi : l.calls[i]? = some c) (hc : c.phase.tends? = none)
      (hdropped : c.phase ≠ .dropped) (hfiles : c.method.onFiles = true)
      (h : Takes l device.deviceName lock locks next) :
      Goes l none ({ l with locks, nextLock := next }.setPhase i (.queued device task lock))
  /-- A call returns. -/
  | prunes {i : Nat} {c : Call} {p : Phase} {name : String} {locks : List (String × LockId)}
      (hi : l.calls[i]? = some c) (hc : c.phase.tends? = some name) (hlease : c.phase.lease? = none)
      (hp : p.tends? = none) (h : Prunes l name locks) : Goes l none ({ l with locks }.setPhase i p)
  /-- The worker of a caller who is gone has finished. -/
  | forgets {i : Nat} {c : Call} (hi : l.calls[i]? = some c) (ha : c.abandoned = true) :
      Goes l none (l.setPhase i .dropped)
  | yields {i : Nat} {c : Call} {name : String} (hi : l.calls[i]? = some c)
      (hc : c.phase.tends? = some name) : Goes l (some name) (l.setPhase i .dropped)
  /-- A caller gives up, and its worker goes on. -/
  | abandons {i : Nat} {c : Call} {name : String} {lock : LockId} (hi : l.calls[i]? = some c)
      (hc : c.phase.lease? = some (name, lock)) :
      Goes l (some name) { l with calls := l.calls.modify i fun c => { c with abandoned := true } }

/-- A call that has nothing to do with the table goes on so. -/
theorem Goes.aside {l : Ledger} {i : Nat} {c : Call} {p : Phase} (hi : l.calls[i]? = some c)
    (hc : c.phase.tends? = none) (hp : p.tends? = none)
    (hdropped : c.phase = .dropped → p = .dropped) : Goes l none (l.setPhase i p) := by
  refine .keeps hi (hp.trans hc.symm) hdropped fun _ => ?_
  rw [Phase.lease?_of_tends?_none hp, Phase.lease?_of_tends?_none hc]

end Ledger

variable {π : Type}

/-- The table and the calls of a service. -/
def ledger (s : Service π) : Ledger := ⟨s.locks, s.nextLock, s.calls⟩

theorem takes_lockOf (s : Service π) (name : String) :
    ∃ lock locks next, s.ledger.Takes name lock locks next ∧ (s.lockOf name).1 = lock ∧
      (s.lockOf name).2.ledger = { s.ledger with locks, nextLock := next } := by
  unfold lockOf
  cases hl : s.locks.lookup name with
  | some lock => exact ⟨_, _, _, .found hl, rfl, rfl⟩
  | none => exact ⟨_, _, _, .made hl, rfl, rfl⟩

theorem prunes_prune (s : Service π) (name : String) :
    ∃ locks, s.ledger.Prunes name locks ∧ (s.prune name).ledger = { s.ledger with locks } := by
  unfold prune
  cases hl : s.locks.lookup name with
  | none => exact ⟨_, .absent hl, rfl⟩
  | some lock =>
    dsimp only
    by_cases hh : s.hasHandle lock = true
    · obtain ⟨c, hc, hhandle⟩ := List.any_eq_true.mp hh
      obtain ⟨j, hj⟩ := List.mem_iff_getElem?.mp hc
      rw [if_pos hh]
      exact ⟨_, .needed hl hj (eq_of_beq hhandle), rfl⟩
    · rw [if_neg hh]
      exact ⟨_, .dropped, rfl⟩

theorem tends?_phaseOf (device : DeviceInfo) (n : Negotiation) :
    (phaseOf device n).tends? = none := by
  cases n <;> rfl

theorem goes_start (s : Service π) (name : String) (args : Json) :
    s.ledger.Goes none (s.start name args).ledger := by
  refine .begins ?_ ?_
  · cases Method.ofCall name args <;> rfl
  · cases Method.ofCall name args <;> rfl

section
variable [Registry π]

/-- Only who works on files takes a lock. -/
theorem goes_proceed {s : Service π} {i : Nat} {c : Call} {r : Job (List DeviceInfo)}
    (hi : s.calls[i]? = some c) (hp : c.phase = .listed r) {v q : UInt16} {task : DeviceTask}
    (hm : c.method = .onDevice v q task) (device : DeviceInfo) :
    s.ledger.Goes none (s.proceed i task device).ledger := by
  have hnone : c.phase.tends? = none := by rw [hp]; rfl
  have hdropped : c.phase ≠ .dropped := by rw [hp]; simp
  cases task with
  | hasPermission => exact .aside hi hnone rfl fun h => absurd h hdropped
  | requestPermission =>
    exact .aside hi hnone (tends?_phaseOf device _) fun h => absurd h hdropped
  | files task =>
    obtain ⟨lock, locks, next, htakes, hlock, hledger⟩ := takes_lockOf s device.deviceName
    have hgoes : s.ledger.Goes none
        ({ s.ledger with locks, nextLock := next }.setPhase i (.queued device task lock)) :=
      .takes hi hnone hdropped (by rw [hm]; rfl) htakes
    rw [← hledger, ← hlock] at hgoes
    exact hgoes

theorem goes_resolve {s : Service π} {i : Nat} {c : Call} {r : Job (List DeviceInfo)}
    (hi : s.calls[i]? = some c) (hp : c.phase = .listed r) :
    s.ledger.Goes none (s.resolve i c.method r).ledger := by
  have haside : ∀ result, s.ledger.Goes none (s.ledger.setPhase i (.over result)) := by
    intro result
    exact .aside hi (by rw [hp]; rfl) rfl fun h => by simp [hp] at h
  cases r with
  | crashed message => cases hm : c.method <;> exact haside _
  | finished devices =>
    cases hm : c.method with
    | getDevices => exact haside _
    | onDevice v q task =>
      simp only [resolve]
      cases Discovery.find? devices v q with
      | none => exact haside _
      | some device =>
        exact goes_proceed (s := { s with desk := s.desk.retain devices }) hi hp hm device

/-- A caller gives up: it tells which entry it would have looked at. -/
theorem goes_drop (s : Service π) (i : Nat) :
    ∃ gone, s.ledger.Goes gone (s.drop i).ledger ∧
      ∀ name, gone = some name → ∃ c, s.calls[i]? = some c ∧ c.phase.tends? = some name := by
  unfold drop
  cases hi : s.calls[i]? with
  | none => exact ⟨none, .stays, by simp⟩
  | some c =>
    dsimp only
    cases hp : c.phase with
    | queued device task lock =>
      exact ⟨_, .yields hi (by rw [hp]; rfl), fun name hname => ⟨c, rfl, hp ▸ hname⟩⟩
    | working device task lock w =>
      exact ⟨_, .abandons hi (by rw [hp]; rfl), fun name hname => ⟨c, rfl, hp ▸ hname⟩⟩
    | freed device r =>
      exact ⟨_, .yields hi (by rw [hp]; rfl), fun name hname => ⟨c, rfl, hp ▸ hname⟩⟩
    | listing => exact ⟨none, .aside hi (by rw [hp]; rfl) rfl fun _ => rfl, by simp⟩
    | listed r => exact ⟨none, .aside hi (by rw [hp]; rfl) rfl fun _ => rfl, by simp⟩
    | negotiating device w => exact ⟨none, .aside hi (by rw [hp]; rfl) rfl fun _ => rfl, by simp⟩
    | dropped => exact ⟨none, .aside hi (by rw [hp]; rfl) rfl fun _ => rfl, by simp⟩
    | _ => exact ⟨none, .stays, by simp⟩

variable [Host π]

theorem goes_step (s : Service π) (i : Nat) : s.ledger.Goes none (s.step i).ledger := by
  unfold step
  cases hi : s.calls[i]? with
  | none => exact .stays
  | some c =>
    dsimp only
    cases hp : c.phase with
    | listing => exact .aside hi (by rw [hp]; rfl) rfl fun h => by simp [hp] at h
    | listed r => exact goes_resolve hi hp
    | negotiating device w =>
      exact .aside hi (by rw [hp]; rfl) (tends?_phaseOf device _) fun h => by simp [hp] at h
    | queued device task lock =>
      dsimp only
      split
      · exact .stays
      · exact .keeps hi (by rw [hp]; rfl) (by simp [hp]) fun _ => by rw [hp]; rfl
    | working device task lock w =>
      have hkeeps : ∀ w', s.ledger.Goes none
          (s.ledger.setPhase i (.working device task lock w')) := by
        intro w'
        exact .keeps hi (by rw [hp]; rfl) (by simp [hp]) fun _ => by rw [hp]; rfl
      cases w with
      | done r =>
        dsimp only
        by_cases ha : c.abandoned = true
        · rw [if_pos ha]
          exact .forgets hi ha
        · rw [if_neg ha]
          exact .keeps hi (by rw [hp]; rfl) (by simp [hp]) fun h => absurd h ha
      | starting => exact hkeeps _
      | permitted => exact hkeeps _
      | serving medium => exact hkeeps _
    | freed device r =>
      obtain ⟨locks, hprunes, hledger⟩ := prunes_prune s device.deviceName
      have hgoes := Ledger.Goes.prunes (p := .over (resultOf r)) hi (by rw [hp]; rfl)
        (by rw [hp]; rfl) rfl hprunes
      rw [← hledger] at hgoes
      exact hgoes
    | _ => exact .stays

end

/-! ## Who is responsible -/

namespace Ledger

/-- Locks have numbers that were given out, and no two devices share one. -/
structure Numbered (l : Ledger) : Prop where
  given : ∀ {name lock}, l.locks.lookup name = some lock → lock < l.nextLock
  distinct : ∀ {name name' lock}, l.locks.lookup name = some lock →
    l.locks.lookup name' = some lock → name = name'

/-- **Every entry has somebody who will look at it, or was left behind.**  Who tends an entry works
on files; and who has given up is gone, or has left its entry behind. -/
structure Tenanted (l : Ledger) (left : String → LockId → Prop) : Prop where
  onFiles : ∀ {i : Nat} {c : Call} {name}, l.calls[i]? = some c → c.phase.tends? = some name →
    c.method.onFiles = true
  abandoned : ∀ {i : Nat} {c : Call}, l.calls[i]? = some c → c.abandoned = true →
    c.phase = .dropped ∨ ∃ name lock, c.phase.lease? = some (name, lock) ∧ left name lock
  tended : ∀ {name lock}, l.locks.lookup name = some lock →
    (∃ (i : Nat) (c : Call), l.calls[i]? = some c ∧ c.abandoned = false ∧
      c.phase.tends? = some name) ∨ left name lock

/-- What is left behind after an incident: what was left before or by who gives up now, as far as
the table still has it. -/
def leaving (left : String → LockId → Prop) (gone : Option String) (l : Ledger) (name : String)
    (lock : LockId) : Prop :=
  (left name lock ∨ gone = some name) ∧ l.locks.lookup name = some lock

variable {l l' : Ledger} {gone : Option String} {left left' : String → LockId → Prop}

theorem lookup_concat {table : List (String × LockId)} {name : String}
    (h : table.lookup name = none) (lock : LockId) (other : String) :
    (table ++ [(name, lock)]).lookup other =
      if other = name then some lock else table.lookup other := by
  rw [List.lookup_append]
  by_cases hn : other = name
  · subst hn
    simp [h]
  · simp [List.lookup_cons, hn, beq_false_of_ne hn]

/-- A lookup after the entries of a name were dropped. -/
theorem lookup_dropped {table : List (String × LockId)} {name other : String} {lock : LockId}
    (h : (table.filter fun (n, _) => n != name).lookup other = some lock) :
    other ≠ name ∧ table.lookup other = some lock := by
  by_cases hn : other = name
  · subst hn
    rw [Desk.lookup_filter_self] at h
    cases h
  · rw [Desk.lookup_filter_ne hn] at h
    exact ⟨hn, h⟩

theorem lookup_of_mem {table : List (String × LockId)} {entry : String × LockId}
    (h : entry ∈ table) : ∃ lock, table.lookup entry.1 = some lock := by
  refine Option.ne_none_iff_exists'.mp fun hnone => ?_
  exact absurd rfl (bne_iff_ne.mp (List.lookup_eq_none_iff.mp hnone entry h))

theorem Numbered.goes (h : Numbered l) (hgoes : Goes l gone l') : Numbered l' := by
  cases hgoes with
  | takes hi hc hdropped hfiles htakes =>
    cases htakes with
    | found hl => exact ⟨h.given, h.distinct⟩
    | made hl =>
      refine ⟨?_, ?_⟩
      · intro name lock hlookup
        have hlookup := (lookup_concat hl _ _).symm.trans hlookup
        show lock < l.nextLock + 1
        split at hlookup
        · cases hlookup
          exact Nat.lt_succ_self _
        · exact Nat.lt_succ_of_lt (h.given hlookup)
      · intro name name' lock hlookup hlookup'
        have hlookup := (lookup_concat hl _ _).symm.trans hlookup
        have hlookup' := (lookup_concat hl _ _).symm.trans hlookup'
        -- the new lock has a number that no entry had
        split at hlookup <;> split at hlookup'
        · next hn hn' => exact hn.trans hn'.symm
        · cases hlookup
          exact absurd (h.given hlookup') (Nat.lt_irrefl _)
        · cases hlookup'
          exact absurd (h.given hlookup) (Nat.lt_irrefl _)
        · exact h.distinct hlookup hlookup'
  | prunes hi hc hlease hp hprunes =>
    cases hprunes with
    | absent hl => exact ⟨h.given, h.distinct⟩
    | needed hl hj hhandle => exact ⟨h.given, h.distinct⟩
    | dropped =>
      refine ⟨?_, ?_⟩
      · intro name lock hlookup
        exact h.given (lookup_dropped hlookup).2
      · intro name name' lock hlookup hlookup'
        exact h.distinct (lookup_dropped hlookup).2 (lookup_dropped hlookup').2
  | _ => exact ⟨h.given, h.distinct⟩

namespace Tenanted

theorem mono (h : Tenanted l left) (hleft : ∀ name lock, left name lock → left' name lock) :
    Tenanted l left' where
  onFiles := h.onFiles
  abandoned hi ha := (h.abandoned hi ha).imp_right fun ⟨name, lock, hlease, hl⟩ =>
    ⟨name, lock, hlease, hleft name lock hl⟩
  tended hl := (h.tended hl).imp_right (hleft _ _)

/-- Who still has a phase in which it tends an entry, or is to take one, and no lock, has not given
up. -/
theorem not_abandoned (h : Tenanted l left) {i : Nat} {c : Call} (hi : l.calls[i]? = some c)
    (hlease : c.phase.lease? = none) (hdropped : c.phase ≠ .dropped) : c.abandoned = false := by
  cases ha : c.abandoned with
  | false => rfl
  | true =>
    rcases h.abandoned hi ha with hd | ⟨name, lock, hl, -⟩
    · exact absurd hd hdropped
    · cases hlease.symm.trans hl

/-- **One call changes.**  What is to be shown is about this call, and about the entries it tended
or made. -/
theorem change (h : Tenanted l left) (hg : Guarded l'.locks l'.calls) {i : Nat} {c : Call}
    {f : Call → Call} (hi : l.calls[i]? = some c) (hcalls : l'.calls = l.calls.modify i f)
    (hfiles : ∀ name, (f c).phase.tends? = some name → (f c).method.onFiles = true)
    (habandoned : (f c).abandoned = true → (f c).phase = .dropped ∨ ∃ name lock,
      (f c).phase.lease? = some (name, lock) ∧ (left name lock ∨ gone = some name))
    (hlocks : ∀ {name lock}, l'.locks.lookup name = some lock → l.locks.lookup name = some lock ∨
      (f c).abandoned = false ∧ (f c).phase.tends? = some name)
    (hown : ∀ {name lock}, l'.locks.lookup name = some lock → c.abandoned = false →
      c.phase.tends? = some name → ((f c).abandoned = false ∧ (f c).phase.tends? = some name) ∨
      (∃ (j : Nat) (c' : Call), j ≠ i ∧ l.calls[j]? = some c' ∧
        c'.phase.lease? = some (name, lock)) ∨ gone = some name) :
    Tenanted l' (leaving left gone l') := by
  have hnew : l'.calls[i]? = some (f c) := by
    rw [hcalls, List.getElem?_modify_eq, hi]
    rfl
  have hold : ∀ {j : Nat} {c' : Call}, j ≠ i → l.calls[j]? = some c' → l'.calls[j]? = some c' := by
    intro j c' hji hj
    rw [hcalls, List.getElem?_modify_ne _ _ (Ne.symm hji)]
    exact hj
  have hcases : ∀ {j : Nat} {c' : Call}, l'.calls[j]? = some c' →
      c' = f c ∨ l.calls[j]? = some c' := by
    intro j c' hj
    rw [hcalls] at hj
    rcases modify_cases hj with ⟨rfl, c₀, hc₀, rfl⟩ | ⟨-, hj⟩
    · exact .inl (congrArg f (Option.some.inj (hc₀.symm.trans hi)))
    · exact .inr hj
  refine ⟨?_, ?_, ?_⟩
  · intro j c' name hj htends
    rcases hcases hj with rfl | hj
    · exact hfiles name htends
    · exact h.onFiles hj htends
  · intro j c' hj ha
    have hleft : c'.phase = .dropped ∨ ∃ name lock, c'.phase.lease? = some (name, lock) ∧
        (left name lock ∨ gone = some name) := by
      rcases hcases hj with rfl | hj
      · exact habandoned ha
      · exact (h.abandoned hj ha).imp_right fun ⟨name, lock, hlease, hl⟩ =>
          ⟨name, lock, hlease, .inl hl⟩
    -- who has a handle has the one in the table
    exact hleft.imp_right fun ⟨name, lock, hlease, hl⟩ =>
      ⟨name, lock, hlease, hl, hg.mapped hj hlease⟩
  · intro name lock hlookup
    have hkept : ∀ {j : Nat} {c' : Call}, j ≠ i → l.calls[j]? = some c' → c'.abandoned = false →
        c'.phase.tends? = some name → (∃ (j : Nat) (c : Call), l'.calls[j]? = some c ∧
          c.abandoned = false ∧ c.phase.tends? = some name) ∨ leaving left gone l' name lock :=
      fun hji hj ha htends => .inl ⟨_, _, hold hji hj, ha, htends⟩
    rcases hlocks hlookup with hbefore | ⟨ha, htends⟩
    · rcases h.tended hbefore with ⟨j, c', hj, ha, htends⟩ | hl
      · by_cases hji : j = i
        · subst hji
          obtain rfl : c' = c := Option.some.inj (hj.symm.trans hi)
          rcases hown hlookup ha htends with ⟨ha, htends⟩ | ⟨j', c₁, hne, hj', hlease⟩ | hgone
          · exact .inl ⟨_, _, hnew, ha, htends⟩
          · -- the entry is handed on to another call, or to the worker of one that was given up
            cases ha' : c₁.abandoned with
            | false => exact hkept hne hj' ha' (Phase.tends?_of_lease? hlease)
            | true =>
              rcases h.abandoned hj' ha' with hd | ⟨name', lock', hlease', hl⟩
              · rw [hd] at hlease
                cases hlease
              · cases hlease.symm.trans hlease'
                exact .inr ⟨.inl hl, hlookup⟩
          · exact .inr ⟨.inr hgone, hlookup⟩
        · exact hkept hji hj ha htends
      · exact .inr ⟨.inl hl, hlookup⟩
    · exact .inl ⟨_, _, hnew, ha, htends⟩

/-- Nothing changes, and what is left behind is what the table still has. -/
theorem remain (h : Tenanted l left) (hg : Guarded l.locks l.calls) :
    Tenanted l (leaving left gone l) where
  onFiles := h.onFiles
  abandoned hi ha := (h.abandoned hi ha).imp_right fun ⟨name, lock, hlease, hl⟩ =>
    ⟨name, lock, hlease, .inl hl, hg.mapped hi hlease⟩
  tended hlookup := (h.tended hlookup).imp_right fun hl => ⟨.inl hl, hlookup⟩

/-- A call begins. -/
theorem append (h : Tenanted l left) {c : Call} (hc : c.phase.tends? = none)
    (ha : c.abandoned = false) : Tenanted { l with calls := l.calls ++ [c] } left := by
  refine ⟨?_, ?_, ?_⟩
  · intro j c' name hj htends
    rcases append_cases hj with hj | rfl
    · exact h.onFiles hj htends
    · cases hc.symm.trans htends
  · intro j c' hj ha'
    rcases append_cases hj with hj | rfl
    · exact h.abandoned hj ha'
    · cases ha.symm.trans ha'
  · intro name lock hlookup
    rcases h.tended hlookup with ⟨j, c', hj, ha', htends⟩ | hl
    · refine .inl ⟨j, c', ?_, ha', htends⟩
      exact (List.getElem?_append_left (List.getElem?_eq_some_iff.mp hj).1).trans hj
    · exact .inr hl

/-- **Whatever happens, somebody stays responsible.** -/
theorem goes (h : Tenanted l left) (hn : Numbered l) (hg : Guarded l.locks l.calls)
    (hg' : Guarded l'.locks l'.calls) (hgoes : Goes l gone l') :
    Tenanted l' (leaving left gone l') := by
  cases hgoes with
  | stays => exact h.remain hg
  | begins hc ha => exact (h.append hc ha).remain hg'
  | @keeps i c p hi htends hdropped hlease =>
    refine h.change hg' hi rfl ?_ ?_ ?_ ?_
    · intro name hname
      exact (h.onFiles hi (htends.symm.trans hname) : c.method.onFiles = true)
    · intro ha
      rcases h.abandoned hi ha with hd | ⟨name, lock, hl, hleft⟩
      · exact .inl (hdropped hd)
      · exact .inr ⟨name, lock, (hlease ha).trans hl, .inl hleft⟩
    · exact fun hlookup => .inl hlookup
    · intro name lock _ ha htends'
      exact .inl ⟨ha, htends.trans htends'⟩
  | @takes i c device task lock next locks hi hc hdropped hfiles htakes =>
    have ha : c.abandoned = false :=
      h.not_abandoned hi (Phase.lease?_of_tends?_none hc) hdropped
    refine h.change hg' hi rfl (fun _ _ => hfiles) ?_ ?_ ?_
    · intro ha'
      cases ha.symm.trans ha'
    · intro name lock' hlookup
      cases htakes with
      | found hl => exact .inl hlookup
      | made hl =>
        have hlookup := (lookup_concat hl _ _).symm.trans hlookup
        split at hlookup
        · next hname => exact .inr ⟨ha, congrArg some hname.symm⟩
        · exact .inl hlookup
    · intro name lock' _ _ htends
      cases hc.symm.trans htends
  | @prunes i c p name locks hi hc hlease hp hprunes =>
    have ha : c.abandoned = false :=
      h.not_abandoned hi hlease fun hd => by simp [hd, Phase.tends?] at hc
    refine h.change hg' hi rfl ?_ ?_ ?_ ?_
    · intro name' hname
      cases hp.symm.trans hname
    · intro ha'
      cases ha.symm.trans ha'
    · intro name' lock' hlookup
      cases hprunes with
      | dropped => exact .inl (lookup_dropped hlookup).2
      | _ => exact .inl hlookup
    · intro name' lock' hlookup _ htends
      obtain rfl : name = name' := Option.some.inj (hc.symm.trans htends)
      cases hprunes with
      | absent hl => cases hl.symm.trans hlookup
      | dropped => exact absurd rfl (lookup_dropped hlookup).1
      | @needed j c' lock hl hj hhandle =>
        -- the handle that made the entry stay is one for this device
        obtain ⟨name', hlease'⟩ := Phase.lease?_of_handle? hhandle
        obtain rfl : lock = lock' := Option.some.inj (hl.symm.trans hlookup)
        obtain rfl : name = name' := hn.distinct hl (hg.mapped hj hlease')
        refine .inr (.inl ⟨j, c', ?_, hj, hlease'⟩)
        rintro rfl
        cases hi.symm.trans hj
        cases hlease.symm.trans hlease'
  | @forgets i c hi ha =>
    refine h.change hg' hi rfl ?_ (fun _ => .inl rfl) (fun hlookup => .inl hlookup) ?_
    · intro name hname
      cases hname
    · intro name lock _ ha'
      cases ha.symm.trans ha'
  | @yields i c name hi hc =>
    refine h.change hg' hi rfl ?_ (fun _ => .inl rfl) (fun hlookup => .inl hlookup) ?_
    · intro name' hname
      cases hname
    · intro name' lock _ _ htends
      exact .inr (.inr (hc.symm.trans htends))
  | @abandons i c name lock hi hc =>
    refine h.change hg' hi rfl ?_ ?_ (fun hlookup => .inl hlookup) ?_
    · intro name' hname
      exact (h.onFiles hi hname : c.method.onFiles = true)
    · exact fun _ => .inr ⟨name, lock, hc, .inr rfl⟩
    · intro name' lock' _ _ htends
      exact .inr (.inr ((Phase.tends?_of_lease? hc).symm.trans htends))

end Tenanted
end Ledger

/-! ## Runs in which workers crash -/

/-- What may happen, and a worker that crashes in the middle of whatever it does. -/
inductive Incident (π : Type) where
  | ordinary (x : Happening π)
  | crash (i : Nat) (message : String)

variable [Host π]

/-- The worker of a call crashes.  What it has opened is closed on the way; its lock is given back
when the worker is gone. -/
def crash (i : Nat) (message : String) (s : Service π) : Service π :=
  match s.calls[i]? with
  | none => s
  | some c =>
      match c.phase with
      | .listing => s.setPhase i (.listed (.crashed message))
      | .working device task lock w =>
          match w with
          | .done _ => s
          | .serving _ =>
              (s.onMachine Host.closeDevice).setPhase i
                (.working device task lock (.done (.crashed message)))
          | _ => s.setPhase i (.working device task lock (.done (.crashed message)))
      | _ => s

theorem guarded_crash {s : Service π} (h : Guarded s.locks s.calls) (i : Nat) (message : String) :
    Guarded (s.crash i message).locks (s.crash i message).calls := by
  unfold crash
  cases hi : s.calls[i]? with
  | none => exact h
  | some c =>
    dsimp only
    cases hp : c.phase with
    | listing => exact h.leave i rfl
    | working device task lock w =>
      cases w with
      | done r => exact h
      | starting => exact h.keep hi _ (by rw [hp]; rfl) (by rw [hp]; rfl)
      | permitted => exact h.keep hi _ (by rw [hp]; rfl) (by rw [hp]; rfl)
      | serving medium => exact h.keep hi _ (by rw [hp]; rfl) (by rw [hp]; rfl)
    | _ => exact h

theorem goes_crash (s : Service π) (i : Nat) (message : String) :
    s.ledger.Goes none (s.crash i message).ledger := by
  unfold crash
  cases hi : s.calls[i]? with
  | none => exact .stays
  | some c =>
    dsimp only
    cases hp : c.phase with
    | listing => exact .aside hi (by rw [hp]; rfl) rfl fun h => by simp [hp] at h
    | working device task lock w =>
      have hkeeps : ∀ w', s.ledger.Goes none
          (s.ledger.setPhase i (.working device task lock w')) := by
        intro w'
        exact .keeps hi (by rw [hp]; rfl) (by simp [hp]) fun _ => by rw [hp]; rfl
      cases w with
      | done r => exact .stays
      | starting => exact hkeeps _
      | permitted => exact hkeeps _
      | serving medium => exact hkeeps _
    | _ => exact .stays

variable [Registry π]

/-- A service after an incident. -/
def face (s : Service π) : Incident π → Service π
  | .ordinary x => s.after x
  | .crash i message => s.crash i message

/-- A service after a history of incidents. -/
def through (s : Service π) (history : List (Incident π)) : Service π := history.foldl face s

/-- In the course of a history a call of a certain kind was given up, and something has been so ever
since. -/
def GaveUp (s : Service π) (history : List (Incident π)) (which : Call → Prop)
    (since : Service π → Prop) : Prop :=
  ∃ before i later c, history = before ++ .ordinary (.drop i) :: later ∧
    (s.through before).calls[i]? = some c ∧ which c ∧
    ∀ part, part <+: later → since (s.through (before ++ .ordinary (.drop i) :: part))

theorem through_concat (s : Service π) (history : List (Incident π)) (x : Incident π) :
    s.through (history ++ [x]) = (s.through history).face x := by
  simp [through]

namespace GaveUp
variable {s : Service π} {history : List (Incident π)} {which which' : Call → Prop}
  {since since' : Service π → Prop}

/-- It is so now. -/
theorem now (h : GaveUp s history which since) : since (s.through history) := by
  obtain ⟨before, i, later, c, rfl, -, -, hsince⟩ := h
  exact hsince later (List.prefix_refl later)

theorem concat (h : GaveUp s history which since) {x : Incident π}
    (hx : since (s.through (history ++ [x]))) : GaveUp s (history ++ [x]) which since := by
  obtain ⟨before, i, later, c, rfl, hi, hc, hsince⟩ := h
  refine ⟨before, i, later ++ [x], c, by simp, hi, hc, ?_⟩
  intro part hpart
  rcases List.prefix_concat_iff.mp hpart with rfl | hpart
  · simpa using hx
  · exact hsince part hpart

theorem mono (h : GaveUp s history which since)
    (hwhich : ∀ before (i : Nat) c, (s.through before).calls[i]? = some c → which c → which' c)
    (hsince : ∀ s, since s → since' s) : GaveUp s history which' since' := by
  obtain ⟨before, i, later, c, rfl, hi, hc, h⟩ := h
  exact ⟨before, i, later, c, rfl, hi, hwhich before i c hi hc, fun part hpart =>
    hsince _ (h part hpart)⟩

theorem last {i : Nat} {c : Call} (hi : (s.through history).calls[i]? = some c) (hc : which c)
    (hx : since (s.through (history ++ [.ordinary (.drop i)]))) :
    GaveUp s (history ++ [.ordinary (.drop i)]) which since := by
  refine ⟨history, i, [], c, rfl, hi, hc, ?_⟩
  intro part hpart
  rw [List.prefix_nil.mp hpart]
  exact hx

end GaveUp

/-- Where no caller gives up, none has given up. -/
theorem not_gaveUp {s : Service π} {history : List (Incident π)} {which : Call → Prop}
    {since : Service π → Prop} (h : ∀ i, .ordinary (.drop i) ∉ history) :
    ¬ GaveUp s history which since := by
  rintro ⟨before, i, later, c, rfl, -⟩
  exact h i (by simp)

theorem guarded_face {s : Service π} (h : Guarded s.locks s.calls) (x : Incident π) :
    Guarded (s.face x).locks (s.face x).calls := by
  cases x with
  | ordinary x => exact guarded_after h x
  | crash i message => exact guarded_crash h i message

/-- What any incident does to the table; a name is told only if a caller gives up. -/
theorem goes_face (s : Service π) (x : Incident π) :
    ∃ gone, s.ledger.Goes gone (s.face x).ledger ∧ ∀ name, gone = some name →
      ∃ i c, x = .ordinary (.drop i) ∧ s.calls[i]? = some c ∧ c.phase.tends? = some name := by
  cases x with
  | crash i message => exact ⟨none, goes_crash s i message, by simp⟩
  | ordinary x =>
    cases x with
    | start method args => exact ⟨none, goes_start s method args, by simp⟩
    | step i => exact ⟨none, goes_step s i, by simp⟩
    | drop i =>
      obtain ⟨gone, hgoes, hgone⟩ := goes_drop s i
      refine ⟨gone, hgoes, fun name hname => ?_⟩
      obtain ⟨c, hi, hc⟩ := hgone name hname
      exact ⟨i, c, rfl, hi, hc⟩
    | machine change => exact ⟨none, .stays, by simp⟩
    | clock now => exact ⟨none, .stays, by simp⟩

/-- **All along a history**, every entry is tended, or a call that tended it was given up and the
entry has been there ever since. -/
theorem tenanted_through (desk : Desk π) (history : List (Incident π)) :
    let s := Service.through { desk } history
    Guarded s.locks s.calls ∧ s.ledger.Numbered ∧ s.ledger.Tenanted fun name lock =>
      GaveUp { desk } history (fun c => c.phase.tends? = some name)
        fun s => s.locks.lookup name = some lock := by
  induction history using List.reverseRecOn with
  | nil =>
    refine ⟨Guarded.nil, ⟨?_, ?_⟩, ⟨?_, ?_, ?_⟩⟩ <;> simp [through, ledger]
  | append_singleton history x ih =>
    obtain ⟨hg, hn, ht⟩ := ih
    rw [through_concat]
    obtain ⟨gone, hgoes, hgone⟩ := goes_face (Service.through { desk } history) x
    refine ⟨guarded_face hg x, hn.goes hgoes, ?_⟩
    refine (ht.goes hn hg (guarded_face hg x) hgoes).mono ?_
    rintro name lock ⟨hleft | hname, hlookup⟩
    · exact hleft.concat (by rw [through_concat]; exact hlookup)
    · obtain ⟨i, c, rfl, hi, hc⟩ := hgone name hname
      exact .last hi hc (by rw [through_concat]; exact hlookup)

/-- **The table has entries only for devices in use.**  Calls about files that nobody gives up
before their end may mingle in any way, fail, or lose their workers: every entry of the table
belongs to one of them, which waits for the lock, holds it, or has given it back and is about to
look at the table.  A call that waits for a lock or holds it has the entry.  So the table is empty
when the last of them is over. -/
theorem locks_only_in_use (desk : Desk π) (history : List (Incident π))
    (hkept : ¬ GaveUp { desk } history
      (fun c => c.method.onFiles = true ∧ ∀ r, c.phase ≠ .over r) fun _ => True) :
    let s := Service.through { desk } history
    (∀ entry ∈ s.locks,
      ∃ c ∈ s.calls, c.method.onFiles = true ∧ c.phase.tends? = some entry.1) ∧
    (∀ c ∈ s.calls, ∀ name lock, c.phase.lease? = some (name, lock) →
      s.locks.lookup name = some lock) ∧
    ((∀ c ∈ s.calls, c.method.onFiles = true → ∃ r, c.phase = .over r) → s.locks = []) := by
  intro s
  obtain ⟨hg, -, ht⟩ := tenanted_through desk history
  have hused : ∀ entry ∈ s.locks,
      ∃ c ∈ s.calls, c.method.onFiles = true ∧ c.phase.tends? = some entry.1 := by
    intro entry hentry
    obtain ⟨lock, hlookup⟩ := Ledger.lookup_of_mem hentry
    rcases ht.tended hlookup with ⟨i, c, hi, -, htends⟩ | hleft
    · exact ⟨c, List.mem_of_getElem? hi, ht.onFiles hi htends, htends⟩
    · -- whoever left the entry was a call about files, and not over
      refine absurd (hleft.mono ?_ fun _ _ => trivial) hkept
      intro before i c hi htends
      refine ⟨(tenanted_through desk before).2.2.onFiles hi htends, ?_⟩
      intro r hr
      rw [hr] at htends
      cases htends
  refine ⟨hused, ?_, ?_⟩
  · intro c hc name lock hlease
    obtain ⟨i, hi⟩ := List.mem_iff_getElem?.mp hc
    exact hg.mapped hi hlease
  · intro hover
    refine List.eq_nil_iff_forall_not_mem.mpr fun entry hentry => ?_
    obtain ⟨c, hc, hfiles, htends⟩ := hused entry hentry
    obtain ⟨r, hr⟩ := hover c hc hfiles
    rw [hr] at htends
    cases htends

/-- Two calls about one device.  The first one loses its worker while the second one waits for the
lock; it leaves the entry to the second one, which drops it. -/
theorem locks_only_in_use_crashed :
    let stick : DeviceInfo := ⟨"usb1", none, none, 1, 2⟩
    let bus := (({} : Bus).attach stick (.unreadable 8)).setGranted "usb1" true
    let args : Json := .obj [("vendorId", .nat 1), ("productId", .nat 2), ("path", .str "/")]
    let desk : Desk Bus := { registry := bus, config := .default }
    let history : List (Incident Bus) :=
      [.ordinary (.start "readdir" args), .ordinary (.start "read" args)] ++
      ([0, 1, 0, 1, 0, 0, 0].map fun i => .ordinary (.step i)) ++ [.crash 0 "boom"] ++
      ([0, 0, 1, 1, 1].map fun i => .ordinary (.step i))
    let s := Service.through { desk } history
    (s.calls.map fun c => (c.phase.tends?, c.phase.openName?)) =
        [(none, none), (some "usb1", some "usb1")] ∧
      s.locks = [("usb1", 0)] ∧
      ∀ entry ∈ s.locks,
        ∃ c ∈ s.calls, c.method.onFiles = true ∧ c.phase.tends? = some entry.1 := by
  intro stick bus args desk history s
  have hkept : ∀ i, Incident.ordinary (.drop i) ∉ history := by
    intro i
    simp [history]
  exact ⟨by decide +kernel, by decide +kernel,
    (locks_only_in_use desk history (not_gaveUp hkept)).1⟩

end Service
end ThumbDrive
