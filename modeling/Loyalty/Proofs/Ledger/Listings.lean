import Loyalty.Proofs.Ledger.Events
import Mathlib.Data.Prod.Lex

/-!
# Listings of orders

The orders of a user are listed with the newest first, and those of a status with the oldest first.
Both listings are complete: they hold every order that belongs to them once and no other, as it is
found by its number (`Store.Lists`). The listings of the four statuses therefore divide the orders
among them, and so do those of the users (`perm_flatMap_of_lists`).

The listing of a user is sorted, by time and then by id. That of a status is not: it keeps the
sequence in which the orders came, which is that of their times as long as the clock does not go
back (`InTime`). Then the listing of a user is that sequence backwards, and what is submitted later
is listed above all that was there before (`listed`).
-/

namespace Loyalty

/-! ## Newer orders -/

/-- One time is before another. -/
def Timestamp.Before (a b : Timestamp) : Prop :=
  a.seconds < b.seconds ∨ a.seconds = b.seconds ∧ a.nanoseconds < b.nanoseconds

instance (a b : Timestamp) : Decidable (a.Before b) := inferInstanceAs (Decidable (_ ∨ _))

namespace Order

variable {a b : Order}

/-- An order is newer than another if it was made later, or at the same time under a larger id. -/
def Newer (a b : Order) : Prop :=
  b.createdAt.Before a.createdAt ∨ b.createdAt = a.createdAt ∧ b.id < a.id

/-- What orders are sorted by: their times, and then their ids. -/
def rank (o : Order) : ℤ ×ₗ ℕ ×ₗ ℤ :=
  toLex (o.createdAt.seconds, toLex (o.createdAt.nanoseconds, o.id))

theorem newer_iff : a.Newer b ↔ b.rank < a.rank := by
  rcases a with ⟨_, _, _, _, _, ⟨_, _⟩⟩
  rcases b with ⟨_, _, _, _, _, ⟨_, _⟩⟩
  simp only [Newer, Timestamp.Before, Timestamp.mk.injEq, rank, Prod.Lex.toLex_lt_toLex]
  omega

theorem precedes_iff : a.precedes b = true ↔ b.rank ≤ a.rank := by
  rcases a with ⟨_, _, _, _, _, ⟨_, _⟩⟩
  rcases b with ⟨_, _, _, _, _, ⟨_, _⟩⟩
  simp only [precedes, Timestamp.le, Timestamp.mk.injEq, rank, Prod.Lex.toLex_le_toLex]
  split_ifs <;> simp <;> omega

theorem id_eq_of_rank_eq (h : a.rank = b.rank) : a.id = b.id :=
  congrArg (fun r => (ofLex (ofLex r).2).2) h

/-- An order of a larger id is newer, unless the clock went back. -/
theorem newer_of_id_lt (hid : b.id < a.id) (htime : ¬ a.createdAt.Before b.createdAt) :
    a.Newer b := by
  rcases a with ⟨_, _, _, _, _, ⟨_, _⟩⟩
  rcases b with ⟨_, _, _, _, _, ⟨_, _⟩⟩
  simp only [Newer, Timestamp.Before, Timestamp.mk.injEq] at *
  omega

end Order

namespace Store

variable {s s' : Store} {event : Event} {events : List Event} {operation : Operation}
  {l : List Order} {user : Int}

/-! ## Complete listings -/

/-- The listing has all orders that belong to it, each of them once, and no others, and has them
    as they are found by their numbers. -/
structure Lists (s : Store) (belongs : Order → Prop) (l : List Order) : Prop where
  mem : ∀ o, o ∈ l ↔ o ∈ s.orders ∧ belongs o
  once : l.Nodup
  found : ∀ number o, s.findOrder? number = some o ∧ belongs o ↔ o ∈ l ∧ o.number = number

theorem nodup_orders (hs : s.Reachable) : s.orders.Nodup :=
  List.Nodup.of_map _ hs.numbered.nodup_orders

theorem findOrder?_eq_some_iff (hs : s.Distinct) {number : String} {o : Order} :
    s.findOrder? number = some o ↔ o ∈ s.orders ∧ o.number = number := by
  constructor
  · intro h
    exact ⟨List.mem_of_find?_eq_some h, by simpa using List.find?_some h⟩
  · rintro ⟨ho, rfl⟩
    exact hs.findOrder?_of_mem ho

theorem lists_of_perm (hs : s.Reachable) {belongs : Order → Prop} [DecidablePred belongs]
    (h : l.Perm (s.orders.filter (belongs ·))) : s.Lists belongs l := by
  have hmem (o : Order) : o ∈ l ↔ o ∈ s.orders ∧ belongs o := by
    rw [h.mem_iff, List.mem_filter, decide_eq_true_iff]
  refine ⟨hmem, h.nodup_iff.2 ((nodup_orders hs).filter _), fun number o => ?_⟩
  rw [findOrder?_eq_some_iff hs.distinct, hmem, and_right_comm]

theorem perm_ordersOf (s : Store) (user : Int) :
    (s.ordersOf user).Perm (s.orders.filter (·.user = user)) := List.mergeSort_perm _ _

theorem lists_ordersOf (hs : s.Reachable) (user : Int) :
    s.Lists (·.user = user) (s.ordersOf user) := lists_of_perm hs (s.perm_ordersOf user)

theorem lists_ordersIn (hs : s.Reachable) (status : OrderStatus) :
    s.Lists (·.status = status) (s.ordersIn status) := lists_of_perm hs (List.Perm.refl _)

/-- Listings of all that some property of an order can be divide the orders among them. -/
theorem perm_flatMap_of_lists (hs : s.Reachable) {κ : Type} {property : Order → κ} {keys : List κ}
    {listing : κ → List Order} (hkeys : keys.Nodup) (hcover : ∀ o ∈ s.orders, property o ∈ keys)
    (hlists : ∀ k, s.Lists (property · = k) (listing k)) :
    (keys.flatMap listing).Perm s.orders := by
  refine (List.perm_ext_iff_of_nodup ?_ (nodup_orders hs)).2 fun o => ?_
  · refine List.nodup_flatMap.2 ⟨fun k _ => (hlists k).once, hkeys.imp fun {k k'} hne o ho ho' => ?_⟩
    have hk : property o = k := (((hlists k).mem o).1 ho).2
    have hk' : property o = k' := (((hlists k').mem o).1 ho').2
    exact hne (hk.symm.trans hk')
  · rw [List.mem_flatMap]
    constructor
    · rintro ⟨k, _, ho⟩
      exact (((hlists k).mem o).1 ho).1
    · exact fun ho => ⟨property o, hcover o ho, ((hlists _).mem o).2 ⟨ho, rfl⟩⟩

/-! ## The sequence of the orders -/

/-- The time at which an event makes an order, if it does. -/
def Event.orderTime? : Event → Option Timestamp
  | .operation (.createOrder _ _ now) => some now
  | .deed (.submit _ _ now) => some now
  | _ => none

/-- The clock does not go back from one order to the next. -/
def InTime (events : List Event) : Prop :=
  (events.filterMap Event.orderTime?).Pairwise fun earlier later => ¬ later.Before earlier

instance (events : List Event) : Decidable (InTime events) :=
  inferInstanceAs (Decidable (List.Pairwise _ _))

/-- The times of the orders, in the sequence in which they came. -/
def times (s : Store) : List Timestamp := s.orders.map (·.createdAt)

theorem Change.times (h : s.Change operation s') :
    s'.times = s.times ∨
      ∃ number user now, operation = .createOrder number user now ∧
        s'.times = s.times ++ [now] := by
  cases h with
  | stays operation s' rows => exact .inl (by rw [Store.times, orders_of_rows rows, Store.times])
  | user | withdrawn => exact .inl rfl
  | order number user now fresh =>
    exact .inr ⟨number, user, now, rfl, by simp [Store.times, addOrder]⟩
  | marked id status ne => exact .inl (map_updateOrder fun _ => rfl)
  | credited order amount b b' balance credit => exact .inl (map_updateOrder fun _ => rfl)

theorem Event.Does.orderTime? {number : String} {user : Int} {now : Timestamp}
    (h : event.Does (.createOrder number user now)) : event.orderTime? = some now := by
  cases h with
  | operation => rfl
  | deed does =>
    cases does
    rfl

theorem Event.orderTime?_eq_some {now : Timestamp} (h : event.orderTime? = some now) :
    (∃ number user, event = .operation (.createOrder number user now)) ∨
      ∃ raw user, event = .deed (.submit raw user now) := by
  rw [Event.orderTime?.eq_def] at h
  split at h <;> cases h
  · exact .inl ⟨_, _, rfl⟩
  · exact .inr ⟨_, _, rfl⟩

/-- An event makes one order at most, and at its time. -/
theorem times_happen_sublist (s : Store) (event : Event) :
    (s.happen event).times.Sublist (s.times ++ event.orderTime?.toList) := by
  have hmade (number : String) (user : Int) (now : Timestamp) :
      (s.operate (.createOrder number user now)).times.Sublist (s.times ++ [now]) := by
    rcases (s.operate_change (.createOrder number user now)).times with h | ⟨_, _, _, e, h⟩
    · rw [h]
      exact List.sublist_append_left _ _
    · cases e
      rw [h]
  cases htime : event.orderTime? with
  | none =>
    -- None of the operations that the event is made of makes an order.
    have hsame : (s.happen event).times = s.times := by
      refine happen_induct (P := fun t => t.times = s.times) rfl fun t operation hdoes ht => ?_
      rcases (t.operate_change operation).times with h | ⟨_, _, _, rfl, -⟩
      · exact h.trans ht
      · rw [hdoes.orderTime?] at htime
        cases htime
    rw [hsame]
    exact List.sublist_append_left _ _
  | some now =>
    rcases Event.orderTime?_eq_some htime with ⟨number, user, rfl⟩ | ⟨raw, user, rfl⟩
    · exact hmade number user now
    · rw [happen, perform]
      cases hread : OrderNumber.read raw with
      | error cause =>
        rw [submit, hread]
        exact List.sublist_append_left _ _
      | ok number =>
        rw [submit_snd hread]
        exact hmade number user now

theorem times_happenAll_sublist (s : Store) (events : List Event) :
    (s.happenAll events).times.Sublist (s.times ++ events.filterMap Event.orderTime?) := by
  induction events generalizing s with
  | nil => exact List.sublist_append_left _ _
  | cons event events ih =>
    have hcons : (event :: events).filterMap Event.orderTime? =
        event.orderTime?.toList ++ events.filterMap Event.orderTime? := by
      cases h : event.orderTime? <;> simp [h]
    rw [hcons, ← List.append_assoc]
    exact (ih (s.happen event)).trans ((times_happen_sublist s event).append_right _)

theorem InTime.times (h : InTime events) :
    (empty.happenAll events).times.Pairwise fun earlier later => ¬ later.Before earlier :=
  h.sublist (times_happenAll_sublist empty events)

theorem InTime.of_append {before after : List Event} (h : InTime (before ++ after)) :
    InTime before := by
  rw [InTime, List.filterMap_append] at h
  exact (List.pairwise_append.1 h).1

theorem pairwise_upTo (n : Nat) : (upTo n).Pairwise (· < ·) :=
  List.pairwise_map.2 (List.pairwise_lt_range.imp fun h => by omega)

/-- Where the clock does not go back, every order is newer than those before it. -/
theorem pairwise_newer (hs : s.Numbered)
    (htimes : s.times.Pairwise fun earlier later => ¬ later.Before earlier) :
    s.orders.Pairwise fun a b => b.Newer a := by
  have hids : s.orders.Pairwise fun a b => a.id < b.id :=
    List.pairwise_map.1 (hs.orders ▸ pairwise_upTo _)
  exact (hids.and (List.pairwise_map.1 htimes)).imp fun h => Order.newer_of_id_lt h.1 h.2

/-! ## Sorted listings -/

theorem pairwise_precedes (l : List Order) :
    (l.mergeSort Order.precedes).Pairwise fun a b => b.rank ≤ a.rank := by
  refine (List.pairwise_mergeSort (fun a b c => ?_) (fun a b => ?_) l).imp Order.precedes_iff.1
  · simp only [Order.precedes_iff]
    exact fun hab hbc => hbc.trans hab
  · simp only [Bool.or_eq_true, Order.precedes_iff]
    exact le_total _ _

/-- Whatever the clock does, newer orders are listed above those that are less new. -/
theorem pairwise_ordersOf (hs : s.Reachable) (user : Int) :
    (s.ordersOf user).Pairwise Order.Newer := by
  have hlists := lists_ordersOf hs user
  -- Two orders of one rank have one id, and are the same.
  refine (hlists.once.and (pairwise_precedes _)).imp_of_mem fun {a b} ha hb h => ?_
  refine Order.newer_iff.2 (lt_of_le_of_ne h.2 fun hrank => h.1 ?_)
  refine List.inj_on_of_nodup_map hs.numbered.nodup_orders ?_ ?_ (Order.id_eq_of_rank_eq hrank.symm)
  · exact ((hlists.mem a).1 ha).1
  · exact ((hlists.mem b).1 hb).1

/-- Where every order is newer than those before it, the newest first is the sequence backwards. -/
theorem ordersOf_eq_reverse (hs : s.Reachable) (horders : s.orders.Pairwise fun a b => b.Newer a)
    (user : Int) : s.ordersOf user = (s.orders.filter (·.user = user)).reverse := by
  refine List.Perm.eq_of_pairwise (fun a b _ _ hab hba => ?_) (pairwise_ordersOf hs user)
    (List.pairwise_reverse.2 (horders.filter _))
    ((s.perm_ordersOf user).trans (List.reverse_perm _).symm)
  exact absurd (Order.newer_iff.1 hab) (Order.newer_iff.1 hba).asymm

theorem map_fixed_ordersOf (h : s.ordersOf user = (s.orders.filter (·.user = user)).reverse) :
    (s.ordersOf user).map Order.fixed =
      ((s.orders.map Order.fixed).filter (·.2.1 = user)).reverse := by
  rw [h, List.map_reverse, List.filter_map]
  rfl

/-- Whatever happened to a store, the listings of users and of statuses are complete, they divide
    the orders among them, and those of users are sorted. As long as the clock does not go back, a
    listing of a status is sorted too, the other way round, and that of a user is the sequence in
    which the orders were submitted, backwards: what a part of the history has put into the listing
    is the end of it, up to what becomes of the orders later. -/
theorem listed (events : List Event) :
    let s := empty.happenAll events
    (∀ user, s.Lists (·.user = user) (s.ordersOf user) ∧
      (s.ordersOf user).Pairwise Order.Newer) ∧
    (∀ status, s.Lists (·.status = status) (s.ordersIn status)) ∧
    (OrderStatus.all.flatMap s.ordersIn).Perm s.orders ∧
    (∀ users : List Int, users.Nodup → (∀ o ∈ s.orders, o.user ∈ users) →
      (users.flatMap s.ordersOf).Perm s.orders) ∧
    (InTime events →
      (∀ status, (s.ordersIn status).Pairwise fun a b => b.Newer a) ∧
      ∀ user, s.ordersOf user = (s.orders.filter (·.user = user)).reverse ∧
        ∀ before after, events = before ++ after →
          ((empty.happenAll before).ordersOf user).map Order.fixed <:+
            (s.ordersOf user).map Order.fixed) := by
  intro s
  have hreached (events : List Event) : (empty.happenAll events).Reachable :=
    reachable_happenAll reachable_empty events
  have hs := hreached events
  have hbackwards {events : List Event} (h : InTime events) (user : Int) :=
    ordersOf_eq_reverse (hreached events) (pairwise_newer (hreached events).numbered h.times) user
  refine ⟨fun user => ⟨lists_ordersOf hs user, pairwise_ordersOf hs user⟩, lists_ordersIn hs,
    perm_flatMap_of_lists hs (by decide) (fun o _ => ?_) (lists_ordersIn hs),
    fun users husers hcover => perm_flatMap_of_lists hs husers hcover (lists_ordersOf hs),
    fun hintime => ⟨fun status => ?_, fun user => ⟨hbackwards hintime user, ?_⟩⟩⟩
  · cases o.status <;> decide
  · exact (pairwise_newer hs.numbered hintime.times).filter _
  · rintro before after rfl
    have hkeeps : (empty.happenAll before).Keeps s := by
      have hsplit : s = (empty.happenAll before).happenAll after := List.foldl_append
      rw [hsplit]
      exact keeps_happenAll _ after
    rw [map_fixed_ordersOf (hbackwards hintime user),
      map_fixed_ordersOf (hbackwards hintime.of_append user), List.reverse_suffix]
    exact hkeeps.orders.filter _

/-- Three orders of Ann, two of them made at the same time, and one of Bob's in between. The first
    is credited, the second is in hand. -/
theorem listed_sameTime :
    let order : Order := ⟨1, 1, "18", .new, none, ⟨5, 0⟩⟩
    let events : List Event :=
      [.operation (.createUser "ann" "pw"), .operation (.createUser "bob" "pw"),
        .deed (.submit "18" 1 ⟨5, 0⟩), .deed (.submit "26" 2 ⟨6, 0⟩),
        .deed (.submit "34" 1 ⟨6, 7⟩), .operation (.createOrder "42" 1 ⟨6, 7⟩),
        .deed (.claim order), .deed (.settle order (.ok ⟨"18", .processed, some (.of 3 0)⟩)),
        .operation (.mark 3 .processing)]
    let s := empty.happenAll events
    InTime events ∧
      (s.ordersOf 1).map (fun o => (o.number, o.status)) =
        [("42", .new), ("34", .processing), ("18", .processed)] ∧
      ([1, 2].flatMap s.ordersOf).Perm s.orders := by
  intro order events s
  have hintime : InTime events := by decide
  obtain ⟨-, -, -, husers, hsequence⟩ := listed events
  have hbackwards : s.ordersOf 1 = (s.orders.filter (·.user = 1)).reverse :=
    ((hsequence hintime).2 1).1
  have hcover : ∀ o ∈ s.orders, o.user ∈ [1, 2] := by
    have howners : s.orders.map (·.user) = [1, 2, 1, 1] := rfl
    intro o ho
    have howner : o.user ∈ [1, 2, 1, 1] := howners ▸ List.mem_map_of_mem ho
    simp only [List.mem_cons, List.not_mem_nil, or_false] at howner ⊢
    omega
  refine ⟨hintime, ?_, husers [1, 2] (by decide) hcover⟩
  rw [hbackwards]
  rfl

end Store
end Loyalty
