import ThumbDrive.Host.Bus

/-! # Receivers and the answers that reach them

The receivers of all requests stand in one table.  Two things are kept about it, each for itself.

`Balanced` counts: `flight` lists the receivers of the waits in flight, and each of them stands in
the table once.  Every receiver was registered at most once, and if it is no longer in flight it
was unregistered exactly once.  The calls themselves are counted, not what they do: to unregister a
receiver twice would change nothing, and still be wrong.  A registry does not tell its calls, but
every registry may be `Watched`.

`Matched` says which answers are out: if a registered receiver has no answer, the question of its
request is open.  Numbers of receivers and of requests only grow, so that no answer to an old
request can reach a new receiver, or the other way round. -/
namespace ThumbDrive

/-! ## Answers -/

namespace Receivers

/-- The first answer that has reached a receiver. -/
def answer? (r : Receivers) (id : ReceiverId) : Option Bool :=
  (r.delivered.reverse.find? fun x => x.receiver == id).map Delivery.granted

/-- What a receiver is told when a request is answered. -/
def told (granted contradict : Bool) (id : ReceiverId) : List Delivery :=
  if contradict then [⟨id, granted⟩, ⟨id, !granted⟩] else [⟨id, granted⟩]

theorem reverse_delivered (r : Receivers) (request : RequestId) (granted contradict : Bool) :
    (r.deliver request granted contradict).delivered.reverse =
      r.delivered.reverse ++ ((r.table.filter fun (_, q) => q == request).map Prod.fst).flatMap
        (told granted contradict) := by
  unfold deliver
  dsimp only
  generalize (r.table.filter fun (_, q) => q == request).map Prod.fst = ids
  generalize r.delivered = delivered
  induction ids generalizing delivered with
  | nil => simp
  | cons id ids ih =>
    rw [List.foldl_cons, ih, List.flatMap_cons, ← List.append_assoc]
    congr 1
    unfold told
    cases contradict with
    | false => simp
    | true => simp

/-- Whoever is told anything is told the answer first. -/
theorem find?_told (granted contradict : Bool) (ids : List ReceiverId) (id : ReceiverId) :
    ((ids.flatMap (told granted contradict)).find? fun x => x.receiver == id) =
      if id ∈ ids then some ⟨id, granted⟩ else none := by
  induction ids with
  | nil => rfl
  | cons first ids ih =>
    rw [List.flatMap_cons, List.find?_append, ih]
    by_cases hid : first = id
    · subst hid
      cases contradict with
      | false => simp [told]
      | true => simp [told]
    · have hother : id ≠ first := fun h => hid h.symm
      cases contradict with
      | false => simp [told, hid, hother]
      | true => simp [told, hid, hother]

/-- **An answer reaches the receivers of its request**, and counts if it is the first. -/
theorem answer?_deliver (r : Receivers) (request : RequestId) (granted contradict : Bool)
    (id : ReceiverId) :
    (r.deliver request granted contradict).answer? id =
      (r.answer? id).or (if (id, request) ∈ r.table then some granted else none) := by
  have hmem : id ∈ (r.table.filter fun (_, q) => q == request).map Prod.fst ↔
      (id, request) ∈ r.table := by
    simp only [List.mem_map, List.mem_filter, beq_iff_eq]
    constructor
    · rintro ⟨⟨id', q⟩, ⟨hin, rfl⟩, rfl⟩
      exact hin
    · intro hin
      exact ⟨(id, request), ⟨hin, rfl⟩, rfl⟩
  unfold answer?
  rw [reverse_delivered, List.find?_append, find?_told, Option.map_or]
  by_cases hin : (id, request) ∈ r.table
  · rw [if_pos hin, if_pos (hmem.mpr hin)]
    rfl
  · rw [if_neg hin, if_neg (mt hmem.mp hin)]
    rfl

/-- Nobody has an answer who was not there when one was given. -/
theorem answer?_eq_none {r : Receivers} {id : ReceiverId} (h : ∀ x ∈ r.delivered, x.receiver < id) :
    r.answer? id = none := by
  unfold answer?
  rw [Option.map_eq_none_iff, List.find?_eq_none]
  intro x hx
  have hlt := h x (List.mem_reverse.mp hx)
  simpa using Nat.ne_of_lt hlt

/-- Only registered receivers are told anything. -/
theorem mem_deliver {r : Receivers} {request : RequestId} {granted contradict : Bool}
    {x : Delivery} (hx : x ∈ (r.deliver request granted contradict).delivered) :
    x ∈ r.delivered ∨ (x.receiver, request) ∈ r.table := by
  rw [← List.mem_reverse, reverse_delivered, List.mem_append, List.mem_reverse] at hx
  refine hx.imp_right fun htold => ?_
  obtain ⟨id, hid, hx⟩ := List.mem_flatMap.mp htold
  have hreceiver : x.receiver = id := by
    unfold told at hx
    split at hx
    · simp only [List.mem_cons, List.not_mem_nil, or_false] at hx
      rcases hx with rfl | rfl <;> rfl
    · rw [List.mem_singleton.mp hx]
  obtain ⟨⟨i, q⟩, hin, rfl⟩ := List.mem_map.mp hid
  obtain ⟨hin, hq⟩ := List.mem_filter.mp hin
  rw [hreceiver, ← eq_of_beq hq]
  exact hin

/-- One answer to several requests, one after the other. -/
def deliverAll (r : Receivers) (pending : List PermissionRequest) (granted contradict : Bool) :
    Receivers :=
  pending.foldl (fun r q => r.deliver q.id granted contradict) r

theorem table_deliverAll (pending : List PermissionRequest) (granted contradict : Bool)
    (r : Receivers) :
    (r.deliverAll pending granted contradict).table = r.table ∧
      (r.deliverAll pending granted contradict).next = r.next := by
  induction pending generalizing r with
  | nil => exact ⟨rfl, rfl⟩
  | cons q pending ih => exact ih (r.deliver q.id granted contradict)

theorem answer?_deliverAll (pending : List PermissionRequest) (granted contradict : Bool)
    (r : Receivers) (id : ReceiverId) :
    (r.deliverAll pending granted contradict).answer? id =
      (r.answer? id).or
        (if ∃ q ∈ pending, (id, q.id) ∈ r.table then some granted else none) := by
  induction pending generalizing r with
  | nil => simp [deliverAll]
  | cons q pending ih =>
    have hrest := ih (r.deliver q.id granted contradict)
    have htable : (r.deliver q.id granted contradict).table = r.table := rfl
    rw [answer?_deliver, Option.or_assoc, htable] at hrest
    refine hrest.trans (congrArg _ ?_)
    by_cases hq : (id, q.id) ∈ r.table
    · simp [hq]
    · simp [hq]

theorem mem_deliverAll {pending : List PermissionRequest} {granted contradict : Bool}
    {r : Receivers} {x : Delivery}
    (hx : x ∈ (r.deliverAll pending granted contradict).delivered) :
    x ∈ r.delivered ∨ ∃ request, (x.receiver, request) ∈ r.table := by
  induction pending generalizing r with
  | nil => exact .inl hx
  | cons q pending ih =>
    rcases ih hx with hmem | hmem
    · exact (mem_deliver hmem).imp_right fun hin => ⟨q.id, hin⟩
    · exact .inr hmem

end Receivers

/-! ## The bus -/

/-- What the user answers on the spot. -/
def Response.answer? : Response → Option Bool
  | .grant => some true
  | .deny => some false
  | .ignore => none

namespace Bus

theorem receivers_unregister (id : ReceiverId) (b : Bus) :
    (b.unregister id).receivers = b.receivers.unregister id := by
  unfold unregister
  by_cases hactive : b.receivers.isActive id = true
  · rw [if_pos hactive]
    rfl
  · rw [if_neg hactive]
    unfold Receivers.unregister
    have hall : b.receivers.table.filter (fun (i, _) => i != id) = b.receivers.table := by
      apply List.filter_eq_self.mpr
      rintro ⟨i, q⟩ hin
      rw [bne_iff_ne]
      rintro rfl
      exact hactive (List.any_eq_true.mpr ⟨(i, q), hin, beq_self_eq_true i⟩)
    rw [hall]

theorem pending_unregister (id : ReceiverId) (b : Bus) :
    (b.unregister id).pending = b.pending := by
  unfold unregister
  split
  · rfl
  · rfl

theorem receivers_deliver (q : PermissionRequest) (granted : Bool) (b : Bus) :
    (b.deliver q granted).receivers = b.receivers.deliver q.id granted b.contradicts ∧
      (b.deliver q granted).pending = b.pending ∧
      (b.deliver q granted).contradicts = b.contradicts := by
  cases granted <;> exact ⟨rfl, rfl, rfl⟩

theorem answer?_deliver (q : PermissionRequest) (granted : Bool) (b : Bus) (id : ReceiverId) :
    (b.deliver q granted).receivers.answer? id = (b.receivers.answer? id).or
      (if (id, q.id) ∈ b.receivers.table then some granted else none) := by
  rw [(b.receivers_deliver q granted).1]
  exact Receivers.answer?_deliver ..

theorem request_of_error (q : PermissionRequest) {b : Bus} {e : IoError}
    (h : b.requestError = some e) : b.request q = (.error e, b) := by
  unfold request
  rw [h]

/-- The user answers on the spot, or the question stays open. -/
theorem receivers_request (q : PermissionRequest) {b : Bus} (h : b.requestError = none) :
    (b.request q).1 = .ok () ∧
      (b.request q).2.receivers =
        (match b.response.answer? with
        | some granted => b.receivers.deliver q.id granted b.contradicts
        | none => b.receivers) ∧
      (b.request q).2.pending =
        (match b.response.answer? with
        | some _ => b.pending
        | none => b.pending ++ [q]) := by
  unfold request
  rw [h]
  cases hresponse : b.response <;> simp [count, hresponse, Response.answer?, receivers_deliver]

theorem answer?_request (q : PermissionRequest) {b : Bus} (h : b.requestError = none)
    (id : ReceiverId) :
    (b.request q).2.receivers.answer? id = (b.receivers.answer? id).or
      (if (id, q.id) ∈ b.receivers.table then b.response.answer? else none) := by
  rw [(receivers_request q h).2.1]
  cases b.response.answer? with
  | some granted => exact Receivers.answer?_deliver ..
  | none => simp

theorem table_request (q : PermissionRequest) {b : Bus} (h : b.requestError = none) :
    (b.request q).2.receivers.table = b.receivers.table ∧
      (b.request q).2.receivers.next = b.receivers.next := by
  rw [(receivers_request q h).2.1]
  cases b.response.answer? <;> exact ⟨rfl, rfl⟩

theorem mem_request {q : PermissionRequest} {b : Bus} (h : b.requestError = none) {x : Delivery}
    (hx : x ∈ (b.request q).2.receivers.delivered) :
    x ∈ b.receivers.delivered ∨ (x.receiver, q.id) ∈ b.receivers.table := by
  rw [(receivers_request q h).2.1] at hx
  split at hx
  · exact Receivers.mem_deliver hx
  · exact .inl hx

theorem pending_request (q : PermissionRequest) {b : Bus} (h : b.requestError = none) :
    (∀ p ∈ b.pending, p ∈ (b.request q).2.pending) ∧
      (b.response.answer? = none → q ∈ (b.request q).2.pending) := by
  rw [(receivers_request q h).2.2]
  cases b.response.answer? <;> simp +contextual

theorem receivers_foldl_deliver (pending : List PermissionRequest) (granted : Bool) (b : Bus) :
    (pending.foldl (fun b q => b.deliver q granted) b).receivers =
      b.receivers.deliverAll pending granted b.contradicts := by
  induction pending generalizing b with
  | nil => rfl
  | cons q pending ih =>
    obtain ⟨hreceivers, -, hcontradicts⟩ := b.receivers_deliver q granted
    have hrest := ih (b.deliver q granted)
    rw [hreceivers, hcontradicts] at hrest
    exact hrest

/-- All open questions are answered, in order. -/
theorem receivers_answerPending (granted : Bool) (b : Bus) :
    (b.answerPending granted).receivers =
      b.receivers.deliverAll b.pending granted b.contradicts :=
  receivers_foldl_deliver b.pending granted { b with pending := [] }

end Bus

/-! ## Registries whose calls are watched -/

/-- A receiver was registered, or unregistered. -/
inductive Registration where
  | made (receiver : ReceiverId)
  | undone (receiver : ReceiverId)
  deriving DecidableEq, Repr

/-- A registry with the registrations made with it, the latest first. -/
structure Watched (ρ : Type) where
  registry : ρ
  log : List Registration := []

instance {ρ : Type} [Registry ρ] : Registry (Watched ρ) where
  hasPermission := fun d w =>
    let (granted, registry) := Registry.hasPermission d w.registry
    (granted, { w with registry })
  register := fun q w =>
    let (receiver, registry) := Registry.register q w.registry
    (receiver, { registry, log := .made receiver :: w.log })
  unregister := fun receiver w =>
    { registry := Registry.unregister receiver w.registry, log := .undone receiver :: w.log }
  request := fun q w =>
    let (r, registry) := Registry.request q w.registry
    (r, { w with registry })
  deliveries := fun w => Registry.deliveries w.registry

namespace Watched

/-! ## Every receiver is accounted for -/

/-- The receivers in the table, with repetitions if there were any. -/
def active (w : Watched Bus) : List ReceiverId := w.registry.receivers.table.map Prod.fst

/-- **The receivers in `flight` are registered, and no others.**  Every receiver was registered at
most once, and unregistered exactly once unless it is in flight. -/
structure Balanced (w : Watched Bus) (flight : List ReceiverId) : Prop where
  active : ∀ id, w.active.count id = flight.count id
  settled : ∀ id, w.log.count (.undone id) + flight.count id = w.log.count (.made id)
  once : ∀ id, w.log.count (.made id) ≤ 1
  fresh : ∀ id, w.registry.receivers.next ≤ id → w.log.count (.made id) = 0

namespace Balanced
variable {w w' : Watched Bus} {flight flight' : List ReceiverId} {id : ReceiverId}

/-- Only the calls, the table and the next number count, and the waits in flight in any order. -/
theorem congr (h : Balanced w flight) (hlog : w'.log = w.log)
    (htable : w'.registry.receivers.table = w.registry.receivers.table)
    (hnext : w'.registry.receivers.next = w.registry.receivers.next)
    (hflight : ∀ id, flight'.count id = flight.count id) : Balanced w' flight' where
  active id := by
    rw [Watched.active, htable, hflight]
    exact h.active id
  settled id := by
    rw [hlog, hflight]
    exact h.settled id
  once id := by
    rw [hlog]
    exact h.once id
  fresh id hid := by
    rw [hlog]
    exact h.fresh id (hnext ▸ hid)

/-- A new receiver goes into flight. -/
theorem register (h : Balanced w flight) (q : RequestId) :
    Balanced (Registry.register q w).2 (w.registry.receivers.next :: flight) := by
  -- the number of the new receiver is not in any of the books yet
  have hnew := h.fresh w.registry.receivers.next (Nat.le_refl _)
  refine ⟨?_, ?_, ?_, ?_⟩
  · intro id
    have hactive := h.active id
    show ((w.registry.receivers.table ++
      [(w.registry.receivers.next, q)]).map Prod.fst).count id = _
    rw [List.map_append, List.count_append, List.count_cons, Nat.add_comm]
    unfold Watched.active at hactive
    rw [hactive, Nat.add_comm]
    simp [List.count_singleton]
  · intro id
    have hsettled := h.settled id
    show (Registration.made w.registry.receivers.next :: w.log).count (.undone id) + _ =
      (Registration.made w.registry.receivers.next :: w.log).count (.made id)
    rw [List.count_cons, List.count_cons, List.count_cons]
    by_cases hid : w.registry.receivers.next = id
    · subst hid
      simp
      omega
    · simp [hid]
      omega
  · intro id
    have honce := h.once id
    show (Registration.made w.registry.receivers.next :: w.log).count (.made id) ≤ 1
    rw [List.count_cons]
    by_cases hid : w.registry.receivers.next = id
    · subst hid
      simp
      omega
    · simp [hid]
      omega
  · intro id hid
    have hlt : w.registry.receivers.next < id := hid
    show (Registration.made w.registry.receivers.next :: w.log).count (.made id) = 0
    rw [List.count_cons, h.fresh id (Nat.le_of_lt hlt)]
    simp [Nat.ne_of_lt hlt]

/-- A receiver in flight is unregistered. -/
theorem unregister (h : Balanced w (id :: flight)) :
    Balanced (Registry.unregister id w) flight := by
  have hid := h.settled id
  have honce := h.once id
  rw [List.count_cons_self] at hid
  have htable : (Registry.unregister id w).registry.receivers =
      w.registry.receivers.unregister id := Bus.receivers_unregister id w.registry
  refine ⟨?_, ?_, ?_, ?_⟩
  · intro other
    have hactive := h.active other
    unfold Watched.active at hactive ⊢
    rw [htable]
    show ((w.registry.receivers.table.filter fun (i, _) => i != id).map Prod.fst).count other = _
    have hmap : (w.registry.receivers.table.filter fun (i, _) => i != id).map Prod.fst =
        (w.registry.receivers.table.map Prod.fst).filter fun i => i != id := by
      rw [List.filter_map]
      rfl
    rw [hmap]
    by_cases hother : other = id
    · subst hother
      rw [List.count_eq_zero_of_not_mem (by simp)]
      omega
    · rw [List.count_filter (by simpa using hother), hactive,
        List.count_cons_of_ne (Ne.symm hother)]
  · intro other
    have hsettled := h.settled other
    show (Registration.undone id :: w.log).count (.undone other) + flight.count other =
      (Registration.undone id :: w.log).count (.made other)
    rw [List.count_cons, List.count_cons]
    rw [List.count_cons] at hsettled
    by_cases hother : id = other
    · subst hother
      simp at hsettled ⊢
      omega
    · simp [hother] at hsettled ⊢
      omega
  · intro other
    have honce := h.once other
    show (Registration.undone id :: w.log).count (.made other) ≤ 1
    rw [List.count_cons]
    simpa using honce
  · intro other hother
    rw [htable] at hother
    show (Registration.undone id :: w.log).count (.made other) = 0
    rw [List.count_cons, h.fresh other hother]
    simp

/-- No receiver is in flight twice. -/
theorem count_le_one (h : Balanced w flight) (id : ReceiverId) : flight.count id ≤ 1 := by
  have hsettled := h.settled id
  have honce := h.once id
  omega

end Balanced
end Watched

/-! ## Open questions -/

/-- **Who waits without an answer has an open question.**  All requests so far have numbers below
`bound`. -/
structure Bus.Matched (b : Bus) (bound : RequestId) : Prop where
  receiver_lt : ∀ {id request}, (id, request) ∈ b.receivers.table → id < b.receivers.next
  request_lt : ∀ {id request}, (id, request) ∈ b.receivers.table → request < bound
  delivered_lt : ∀ x ∈ b.receivers.delivered, x.receiver < b.receivers.next
  single : ∀ {id request request'}, (id, request) ∈ b.receivers.table →
    (id, request') ∈ b.receivers.table → request = request'
  unanswered : ∀ {id request}, (id, request) ∈ b.receivers.table →
    b.receivers.answer? id = none → ∃ q ∈ b.pending, q.id = request

namespace Bus.Matched
variable {b b' : Bus} {bound : RequestId}

/-- Some receivers may be gone, and some numbers used up. -/
theorem shrink (h : Matched b bound) {bound' : RequestId} (hbound : bound ≤ bound')
    (htable : ∀ x ∈ b'.receivers.table, x ∈ b.receivers.table)
    (hnext : b.receivers.next ≤ b'.receivers.next)
    (hdelivered : b'.receivers.delivered = b.receivers.delivered)
    (hpending : b'.pending = b.pending) : Matched b' bound' where
  receiver_lt hin := Nat.lt_of_lt_of_le (h.receiver_lt (htable _ hin)) hnext
  request_lt hin := Nat.lt_of_lt_of_le (h.request_lt (htable _ hin)) hbound
  delivered_lt x hx := Nat.lt_of_lt_of_le (h.delivered_lt x (hdelivered ▸ hx)) hnext
  single hin hin' := h.single (htable _ hin) (htable _ hin')
  unanswered hin := by
    unfold Receivers.answer?
    rw [hdelivered, hpending]
    exact h.unanswered (htable _ hin)

theorem unregister (h : Matched b bound) (id : ReceiverId) : Matched (b.unregister id) bound := by
  have hreceivers := b.receivers_unregister id
  refine h.shrink (Nat.le_refl _) ?_ ?_ ?_ (b.pending_unregister id)
  · rw [hreceivers]
    intro x hx
    exact (List.mem_filter.mp hx).1
  · rw [hreceivers]
    exact Nat.le_refl _
  · rw [hreceivers]
    rfl

/-- A receiver that comes and goes leaves nothing but its number behind. -/
theorem unregister_register (h : Matched b bound) (request : RequestId) :
    ((b.register request).2.unregister b.receivers.next).receivers =
      { b.receivers with next := b.receivers.next + 1 } := by
  rw [receivers_unregister]
  have htable : (b.receivers.table ++ [(b.receivers.next, request)]).filter
      (fun (i, _) => i != b.receivers.next) = b.receivers.table := by
    rw [List.filter_append, List.filter_eq_self.mpr, List.filter_cons_of_neg (by simp)]
    · simp
    · rintro ⟨id, q⟩ hin
      exact bne_iff_ne.mpr (Nat.ne_of_lt (h.receiver_lt hin))
  exact congrArg
    (fun table => Receivers.mk (b.receivers.next + 1) table b.receivers.delivered) htable

/-- What reaches the receivers in the table, and only them, with no question withdrawn. -/
theorem tell (h : Matched b bound)
    (htable : b'.receivers.table = b.receivers.table)
    (hnext : b'.receivers.next = b.receivers.next)
    (hdelivered : ∀ x ∈ b'.receivers.delivered,
      x ∈ b.receivers.delivered ∨ ∃ request, (x.receiver, request) ∈ b.receivers.table)
    (hunanswered : ∀ {id request}, (id, request) ∈ b.receivers.table →
      b'.receivers.answer? id = none → ∃ q ∈ b'.pending, q.id = request) : Matched b' bound where
  receiver_lt hin := hnext ▸ h.receiver_lt (htable ▸ hin)
  request_lt hin := h.request_lt (htable ▸ hin)
  delivered_lt x hx := by
    rw [hnext]
    rcases hdelivered x hx with hold | ⟨request, hin⟩
    · exact h.delivered_lt x hold
    · exact h.receiver_lt hin
  single hin hin' := h.single (htable ▸ hin) (htable ▸ hin')
  unanswered hin := hunanswered (htable ▸ hin)

/-- One request is answered, whether its question is open or not. -/
theorem deliver (h : Matched b bound) (q : PermissionRequest) (granted : Bool) :
    Matched (b.deliver q granted) bound := by
  obtain ⟨hreceivers, hpending, -⟩ := b.receivers_deliver q granted
  refine h.tell (by rw [hreceivers]; rfl) (by rw [hreceivers]; rfl) ?_ ?_
  · rw [hreceivers]
    intro x hx
    exact (Receivers.mem_deliver hx).imp_right fun hin => ⟨q.id, hin⟩
  · intro id request hin hnone
    rw [answer?_deliver, Option.or_eq_none_iff] at hnone
    rw [hpending]
    exact h.unanswered hin hnone.1

/-- Once the open questions are answered, everybody who waits has an answer. -/
theorem answer?_answerPending (h : Matched b bound) (granted : Bool) {id : ReceiverId}
    {request : RequestId} (hin : (id, request) ∈ b.receivers.table) :
    (b.answerPending granted).receivers.answer? id =
      (b.receivers.answer? id).or (some granted) := by
  rw [b.receivers_answerPending, Receivers.answer?_deliverAll]
  cases hold : b.receivers.answer? id with
  | some old => rfl
  | none =>
    -- its question is among those that are answered
    obtain ⟨q, hq, rfl⟩ := h.unanswered hin hold
    rw [if_pos ⟨q, hq, hin⟩]

theorem answerPending (h : Matched b bound) (granted : Bool) :
    Matched (b.answerPending granted) bound := by
  have hreceivers := b.receivers_answerPending granted
  obtain ⟨htable, hnext⟩ := Receivers.table_deliverAll b.pending granted b.contradicts b.receivers
  refine h.tell (by rw [hreceivers, htable]) (by rw [hreceivers, hnext]) ?_ ?_
  · rw [hreceivers]
    intro x hx
    exact Receivers.mem_deliverAll hx
  · intro id request hin hnone
    rw [h.answer?_answerPending granted hin, Option.or_eq_none_iff] at hnone
    cases hnone.2

/-- A new receiver for a new request. -/
theorem extend (h : Matched b bound)
    (htable : b'.receivers.table = b.receivers.table ++ [(b.receivers.next, bound)])
    (hnext : b'.receivers.next = b.receivers.next + 1)
    (hdelivered : ∀ x ∈ b'.receivers.delivered,
      x ∈ b.receivers.delivered ∨ x.receiver = b.receivers.next)
    (hpending : ∀ q ∈ b.pending, q ∈ b'.pending)
    (hold : ∀ {id request}, (id, request) ∈ b.receivers.table →
      b'.receivers.answer? id = b.receivers.answer? id)
    (hnew : b'.receivers.answer? b.receivers.next = none → ∃ q ∈ b'.pending, q.id = bound) :
    Matched b' (bound + 1) := by
  have hcases : ∀ {id request}, (id, request) ∈ b'.receivers.table →
      (id, request) ∈ b.receivers.table ∨ id = b.receivers.next ∧ request = bound := by
    intro id request hin
    rw [htable, List.mem_append, List.mem_singleton] at hin
    exact hin.imp_right Prod.mk.inj
  refine ⟨?_, ?_, ?_, ?_, ?_⟩
  · intro id request hin
    rw [hnext]
    rcases hcases hin with hin | ⟨rfl, rfl⟩
    · exact Nat.lt_succ_of_lt (h.receiver_lt hin)
    · exact Nat.lt_succ_self _
  · intro id request hin
    rcases hcases hin with hin | ⟨rfl, rfl⟩
    · exact Nat.lt_succ_of_lt (h.request_lt hin)
    · exact Nat.lt_succ_self _
  · intro x hx
    rw [hnext]
    rcases hdelivered x hx with hx | hx
    · exact Nat.lt_succ_of_lt (h.delivered_lt x hx)
    · exact hx ▸ Nat.lt_succ_self _
  · intro id request request' hin hin'
    rcases hcases hin with hin | ⟨rfl, rfl⟩ <;> rcases hcases hin' with hin' | ⟨hid, rfl⟩
    · exact h.single hin hin'
    · exact absurd hid (Nat.ne_of_lt (h.receiver_lt hin))
    · exact absurd (h.receiver_lt hin') (Nat.lt_irrefl _)
    · rfl
  · intro id request hin hnone
    rcases hcases hin with hin | ⟨rfl, rfl⟩
    · rw [hold hin] at hnone
      obtain ⟨q, hq, hid⟩ := h.unanswered hin hnone
      exact ⟨q, hpending q hq, hid⟩
    · exact hnew hnone

end Bus.Matched

/-- **A receiver is registered, and the question is put.**  The new receiver has the answer that is
given on the spot; the others hear nothing of it. -/
theorem Bus.Matched.ask {b : Bus} {bound : RequestId} (h : Matched b bound) (device : DeviceInfo)
    (herror : b.requestError = none) :
    let b' := ((b.register bound).2.request ⟨bound, device⟩).2
    Matched b' (bound + 1) ∧
      b'.receivers.table = b.receivers.table ++ [(b.receivers.next, bound)] ∧
      b'.receivers.next = b.receivers.next + 1 ∧
      b'.receivers.answer? b.receivers.next = b.response.answer? ∧
      ∀ {id request}, (id, request) ∈ b.receivers.table →
        b'.receivers.answer? id = b.receivers.answer? id := by
  intro b'
  have hrequest : (b.register bound).2.requestError = none := herror
  have htable : b'.receivers.table = b.receivers.table ++ [(b.receivers.next, bound)] :=
    (table_request ⟨bound, device⟩ hrequest).1
  have hnext : b'.receivers.next = b.receivers.next + 1 :=
    (table_request ⟨bound, device⟩ hrequest).2
  -- the new receiver is the only one of its request
  have honly : ∀ id, (id, bound) ∈ b.receivers.table ++ [(b.receivers.next, bound)] ↔
      id = b.receivers.next := by
    intro id
    rw [List.mem_append, List.mem_singleton, Prod.mk.injEq]
    constructor
    · rintro (hin | ⟨hid, -⟩)
      · exact absurd (h.request_lt hin) (Nat.lt_irrefl _)
      · exact hid
    · exact fun hid => .inr ⟨hid, rfl⟩
  have hanswer : ∀ id, b'.receivers.answer? id = (b.receivers.answer? id).or
      (if id = b.receivers.next then b.response.answer? else none) := by
    intro id
    rw [← ite_cond_congr (propext (honly id))]
    exact answer?_request ⟨bound, device⟩ hrequest id
  have hold : ∀ {id request}, (id, request) ∈ b.receivers.table →
      b'.receivers.answer? id = b.receivers.answer? id := by
    intro id request hin
    rw [hanswer, if_neg (Nat.ne_of_lt (h.receiver_lt hin)), Option.or_none]
  have hnew : b'.receivers.answer? b.receivers.next = b.response.answer? := by
    rw [hanswer, Receivers.answer?_eq_none h.delivered_lt, if_pos rfl, Option.none_or]
  obtain ⟨hpending, hopen⟩ := pending_request ⟨bound, device⟩ hrequest
  refine ⟨h.extend htable hnext ?_ hpending hold ?_, htable, hnext, hnew, hold⟩
  · intro x hx
    exact (mem_request hrequest hx).imp_right (honly x.receiver).mp
  · intro hnone
    exact ⟨_, hopen (hnew.symm.trans hnone), rfl⟩

end ThumbDrive
