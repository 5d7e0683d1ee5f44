import Loyalty.Proofs.Ledger.Balances
import Loyalty.Proofs.Ledger.Outcomes
import Mathlib.Algebra.BigOperators.Group.List.Basic

/-!
# Settling in any order

Orders are settled as the answers about them come, and nobody puts the answers in
order. As long as nothing is told to fail and no balance comes to its limit
(`Store.Payable`), that makes no difference: some answers make of a store what it
was, with each of them written down on its own order and the points of all of them
on the balances (`Store.Written`).

* `Payable.settle`: one answer is written down as it says, and the others can be
  afterwards;
* `settleAll_spec`: so are any number of them, one after another;
* `Written.perm`: what is written down does not depend on their order;
* `settled_in_any_order`: so two orders of the answers give the same rows, the same
  results, and balances of the same values.

The balances need not be the same amounts: a sum has the larger scale of its two
parts, but a zero is passed over together with its scale.
-/

namespace Loyalty

/-- What a balance is worth, in grains. -/
def Balance.worth (b : Balance) : Int × Int := (b.current.value, b.withdrawn.value)

/-- An order, and what the authority answers about it. -/
structure Answered where
  order : Order
  reply : Reply

namespace Answered

/-- What the answer makes of the order. -/
def settlement (a : Answered) : Settlement := .ofReply a.reply

/-- The points that some answers bring a user. -/
def due (user : Int) (l : List Answered) : List Amount :=
  l.filterMap fun a =>
    match a.settlement with
    | .credit points => if a.order.user = user then some points else none
    | _ => none

variable {user : Int} {a : Answered} {l l' : List Answered}

theorem due_append (user : Int) (l l' : List Answered) :
    due user (l ++ l') = due user l ++ due user l' :=
  List.filterMap_append

theorem due_perm (h : l.Perm l') (user : Int) :
    Amount.total (due user l) = Amount.total (due user l') :=
  ((h.filterMap _).map _).sum_eq

theorem due_of_credit {points : Amount} (h : a.settlement = .credit points) (user : Int) :
    due user [a] = if a.order.user = user then [points] else [] := by
  by_cases huser : a.order.user = user <;> simp [due, h, huser]

theorem due_of_no_credit (h : ∀ points, a.settlement ≠ .credit points) (user : Int) :
    due user [a] = [] := by
  rw [due, List.filterMap_eq_nil_iff]
  intro a' ha'
  obtain rfl := List.mem_singleton.1 ha'
  cases hset : a'.settlement with
  | credit points => exact absurd hset (h points)
  | refuse => rfl
  | giveBack => rfl

theorem dvd_due (h : ∀ points, a.settlement = .credit points →
    (Amount.hundredth : Int) ∣ points.value) (user : Int) :
    (Amount.hundredth : Int) ∣ Amount.total (due user [a]) := by
  by_cases hset : ∃ points, a.settlement = .credit points
  · obtain ⟨points, hset⟩ := hset
    rw [due_of_credit hset]
    split_ifs
    · simpa using h points hset
    · exact Int.dvd_zero _
  · rw [due_of_no_credit fun points hpoints => hset ⟨points, hpoints⟩]
    exact Int.dvd_zero _

/-- No answer brings less than nothing. -/
theorem due_nonneg (user : Int) (l : List Answered) : 0 ≤ Amount.total (due user l) := by
  refine Amount.total_nonneg fun points hpoints => ?_
  obtain ⟨a, -, ha⟩ := List.mem_filterMap.1 hpoints
  cases hset : a.settlement with
  | credit points' =>
    simp only [hset, Option.ite_none_right_eq_some, Option.some.injEq] at ha
    exact ha.2 ▸ Settlement.nonneg_of_ofReply hset
  | refuse => simp [hset] at ha
  | giveBack => simp [hset] at ha

end Answered

/-- The order after an answer of which that came. -/
def Order.afterwards (o : Order) : Outcome Settlement → Order
  | .ok (.credit points) => { o with status := .processed, accrual := some points }
  | .ok .refuse => { o with status := .invalid }
  | _ => { o with status := .new }

theorem Order.id_afterwards (o : Order) (result : Outcome Settlement) :
    (o.afterwards result).id = o.id := by
  unfold afterwards
  split <;> rfl

namespace Store

open Answered

variable {s s' t t' : Store} {a : Answered} {l l' : List Answered}

/-- Settles orders one after another, each by its answer, and says what came of each. -/
def settleAll (s : Store) : List Answered → List (Order × Outcome Settlement) × Store
  | [] => ([], s)
  | a :: rest =>
    let first := s.settle a.order a.reply
    let others := first.2.settleAll rest
    ((a.order, first.1) :: others.1, others.2)

/-- What comes of an answer where no sum overflows: what it says, except that nobody is
    credited without a balance. -/
def verdict (s : Store) (a : Answered) : Outcome Settlement :=
  match a.settlement with
  | .credit points =>
    if (s.balance? a.order.user).isSome then .ok (.credit points)
    else fails (.userNotFound (toString a.order.user))
  | settlement => .ok settlement

/-- Writes an answer down, if it is about this order. -/
def record (s : Store) (o : Order) (a : Answered) : Order :=
  if o.id = a.order.id then o.afterwards (s.verdict a) else o

/-- The store `t` is `s` with some answers written down, each on its own order, and with
    their points on the balances. -/
structure Written (s : Store) (l : List Answered) (t : Store) : Prop where
  orders : t.orders = s.orders.map fun o => l.foldl s.record o
  withdrawals : t.withdrawals = s.withdrawals
  faults : t.faults = s.faults
  balances : ∀ user, (t.balance? user).map Balance.worth = (s.balance? user).map fun b =>
    (b.current.value + Amount.total (due user l), b.withdrawn.value)

/-- Nothing is told to fail, the answers are about different orders, and points and
    balances are whole hundredths, which together can be counted. -/
structure Payable (s : Store) (l : List Answered) : Prop where
  quiet : s.Quiet
  distinct : (l.map (·.order.id)).Nodup
  stored : ∀ a ∈ l, a.order.id ∈ s.orders.map (·.id)
  hundredths : ∀ a ∈ l, ∀ points, a.settlement = .credit points →
    (Amount.hundredth : Int) ∣ points.value
  room : ∀ user b, s.balance? user = some b → (Amount.hundredth : Int) ∣ b.current.value ∧
    0 ≤ b.current.value ∧ b.current.value + Amount.total (due user l) ≤ Amount.ceiling

/-! ## What does not depend on the order of the answers -/

theorem verdict_ne_overflow (s : Store) (a : Answered) : s.verdict a ≠ .error .overflow := by
  unfold verdict
  split
  · split_ifs <;> simp [fails]
  · simp

theorem id_record (s : Store) (o : Order) (a : Answered) : (s.record o a).id = o.id := by
  rw [record]
  split_ifs
  · exact o.id_afterwards _
  · rfl

theorem record_of_ne {o : Order} (h : o.id ≠ a.order.id) : s.record o a = o := if_neg h

/-- Answers about different orders are written down in any order. -/
theorem record_comm {a' : Answered} (h : a.order.id ≠ a'.order.id) (o : Order) :
    s.record (s.record o a) a' = s.record (s.record o a') a := by
  -- An order is about one of the two at most, and writing down keeps its id.
  by_cases ho : o.id = a.order.id
  · have ho' : o.id ≠ a'.order.id := fun hid => h (ho.symm.trans hid)
    rw [record_of_ne ho', record_of_ne (by rwa [id_record])]
  · rw [record_of_ne ho, record_of_ne (o := s.record o a') (by rwa [id_record])]

theorem Written.perm (h : s.Written l t) (hdistinct : (l.map (·.order.id)).Nodup)
    (hperm : l.Perm l') : s.Written l' t := by
  refine ⟨?_, h.withdrawals, h.faults, fun user => ?_⟩
  · rw [h.orders]
    refine List.map_congr_left fun o _ => hperm.foldl_eq' (fun x hx y hy o => ?_) o
    by_cases hid : x.order.id = y.order.id
    · rw [List.inj_on_of_nodup_map hdistinct hx hy hid]
    · exact (record_comm hid o)
  · rw [h.balances, due_perm hperm]

/-! ## Answers written down one after another -/

/-- Users keep their balances. -/
theorem Written.isSome_balance? (h : s.Written l t) (user : Int) :
    (t.balance? user).isSome = (s.balance? user).isSome := by
  rw [← Option.isSome_map (f := Balance.worth), h.balances, Option.isSome_map]

theorem Written.verdict_eq (h : s.Written l t) (a : Answered) : t.verdict a = s.verdict a := by
  simp only [verdict, h.isSome_balance?]

theorem Written.nil (s : Store) : s.Written [] s := by
  refine ⟨(List.map_id _).symm, rfl, rfl, fun user => ?_⟩
  rw [due, List.filterMap_nil, Amount.total_nil]
  simp only [Int.add_zero]
  rfl

theorem Written.append (h : s.Written l s') (h' : s'.Written l' t) : s.Written (l ++ l') t := by
  have hrecord : s'.record = s.record := by
    funext o a
    rw [record, record, h.verdict_eq]
  refine ⟨?_, h'.withdrawals.trans h.withdrawals, h'.faults.trans h.faults, fun user => ?_⟩
  · rw [h'.orders, h.orders, hrecord, List.map_map]
    exact List.map_congr_left fun o _ => (List.foldl_append ..).symm
  · have hs' := h.balances user
    rw [h'.balances, due_append, Amount.total_append]
    rcases hb : s.balance? user with - | b <;> rcases hb' : s'.balance? user with - | b' <;>
      simp only [hb, hb', Option.map_none, Option.map_some, Option.some.injEq, reduceCtorEq,
        Balance.worth, Prod.mk.injEq] at hs' ⊢
    rw [hs'.1, hs'.2]
    exact ⟨by omega, rfl⟩

/-- An answer that credits nobody is written down on its order. -/
theorem written_setStatus {status : OrderStatus}
    (hnothing : ∀ user b, s.balance? user = some b → Amount.total (due user [a]) = 0)
    (hstatus : ∀ o : Order, o.afterwards (s.verdict a) = { o with status }) :
    s.Written [a] (s.setStatus a.order.id status) := by
  refine ⟨?_, rfl, rfl, fun user => ?_⟩
  · refine List.map_congr_left fun o _ => ?_
    rw [List.foldl_cons, List.foldl_nil, record, hstatus]
  · change (s.balance? user).map Balance.worth = _
    rcases hb : s.balance? user with - | b
    · rfl
    · simp only [Option.map_some, hnothing user b hb, Int.add_zero, Balance.worth]

/-- A credit is written down on its order and on the balance of its user. -/
theorem written_setCredited {points : Amount} {b b' : Balance}
    (hset : a.settlement = .credit points) (hb : s.balance? a.order.user = some b)
    (hcurrent : b'.current.value = b.current.value + points.value)
    (hwithdrawn : b'.withdrawn = b.withdrawn) :
    s.Written [a] (s.setCredited a.order points b') := by
  have hverdict : s.verdict a = .ok (.credit points) := by
    simp only [verdict, hset, hb, Option.isSome_some, if_true]
  refine ⟨?_, rfl, rfl, fun user => ?_⟩
  · refine List.map_congr_left fun o _ => ?_
    rw [List.foldl_cons, List.foldl_nil, record, hverdict]
    rfl
  · rw [setCredited, balance?_setBalance_eq_map]
    change ((s.balance? user).map _).map Balance.worth = _
    rw [due_of_credit hset, Option.map_map]
    by_cases huser : a.order.user = user
    · subst huser
      simp [hb, Balance.worth, hcurrent, hwithdrawn]
    · have huser' : user ≠ a.order.user := fun h => huser h.symm
      refine Option.map_congr fun b _ => ?_
      simp [huser, huser', Balance.worth]

/-- A credit that there is room for is exact. -/
theorem Payable.credit {points : Amount} {b : Balance} (h : s.Payable (a :: l))
    (hset : a.settlement = .credit points) (hb : s.balance? a.order.user = some b) :
    ∃ b', b.credit points = .ok b' ∧ b'.current.value = b.current.value + points.value ∧
      b'.withdrawn = b.withdrawn := by
  obtain ⟨hdvd, hnonneg, hroom⟩ := h.room _ b hb
  have hrest := due_nonneg a.order.user l
  rw [← List.singleton_append, due_append, due_of_credit hset, if_pos rfl, Amount.total_append,
    Amount.total_cons, Amount.total_nil] at hroom
  exact Balance.credit_exact hdvd hnonneg (h.hundredths a List.mem_cons_self points hset)
    (Settlement.nonneg_of_ofReply hset) (by omega)

/-- The first of some answers is written down as it says. -/
theorem Payable.settle (h : s.Payable (a :: l)) :
    (s.settle a.order a.reply).1 = s.verdict a ∧
      s.Written [a] (s.settle a.order a.reply).2 := by
  obtain ⟨o, ho⟩ := Option.isSome_iff_exists.1
    (isSome_order?_iff.2 (List.mem_map.1 (h.stored a List.mem_cons_self)))
  have hsettles : s.Settles a.order a.settlement (s.settle a.order a.reply) :=
    settle_settles h.quiet ho a.reply
  generalize s.settle a.order a.reply = result at hsettles ⊢
  generalize hset : a.settlement = settlement at hsettles
  have hnothing : (∀ points, settlement ≠ .credit points) →
      ∀ user b, s.balance? user = some b → Amount.total (due user [a]) = 0 := by
    intro hne user b _
    rw [due_of_no_credit (hset ▸ hne), Amount.total_nil]
  cases hsettles with
  | refused =>
    have hverdict : s.verdict a = .ok .refuse := by rw [verdict, hset]
    exact ⟨hverdict.symm, written_setStatus (hnothing (by simp)) fun o => by rw [hverdict]; rfl⟩
  | givenBack =>
    have hverdict : s.verdict a = .ok .giveBack := by rw [verdict, hset]
    exact ⟨hverdict.symm, written_setStatus (hnothing (by simp)) fun o => by rw [hverdict]; rfl⟩
  | credited points b b' hb hsum =>
    obtain ⟨c, hc, hcurrent, hwithdrawn⟩ := h.credit hset hb
    obtain rfl : c = b' := by simpa [hc] using hsum
    refine ⟨?_, written_setCredited hset hb hcurrent hwithdrawn⟩
    simp only [verdict, hset, hb, Option.isSome_some, if_true]
  | uncredited points hnone =>
    have hverdict : s.verdict a = fails (.userNotFound (toString a.order.user)) := by
      simp [verdict, hset, hnone]
    refine ⟨hverdict.symm, written_setStatus (fun user b hb => ?_) fun o => by rw [hverdict]; rfl⟩
    have huser : a.order.user ≠ user := by
      rintro rfl
      cases hnone.symm.trans hb
    rw [due_of_credit hset, if_neg huser, Amount.total_nil]
  | brokenOff points b hb hover =>
    obtain ⟨c, hc, -⟩ := h.credit hset hb
    cases hc.symm.trans hover

/-- What is written down leaves the others as payable as they were. -/
theorem Payable.tail (h : s.Payable (a :: l)) (ht : s.Written [a] t) : t.Payable l := by
  have hids : t.orders.map (·.id) = s.orders.map (·.id) := by
    rw [ht.orders, List.map_map]
    exact List.map_congr_left fun o _ => s.id_record o a
  refine ⟨⟨?_, fun status => ?_⟩, (List.nodup_cons.1 h.distinct).2, fun a' ha' => ?_,
    fun a' ha' => h.hundredths a' (List.mem_cons_of_mem a ha'), fun user b hb => ?_⟩
  · rw [ht.faults, h.quiet.credits]
  · rw [ht.faults, h.quiet.marks]
  · rw [hids]
    exact h.stored a' (List.mem_cons_of_mem a ha')
  · have hworth := ht.balances user
    rcases hc : s.balance? user with - | c
    · rw [hc, hb] at hworth
      cases hworth
    · rw [hc, hb] at hworth
      simp only [Option.map_some, Option.some.injEq, Balance.worth, Prod.mk.injEq] at hworth
      obtain ⟨hdvd, hnonneg, hroom⟩ := h.room user c hc
      rw [← List.singleton_append, due_append, Amount.total_append] at hroom
      have hfirst := due_nonneg user [a]
      rw [hworth.1]
      refine ⟨Int.dvd_add hdvd ?_, by omega, by omega⟩
      exact dvd_due (h.hundredths a List.mem_cons_self) user

/-- All answers are written down as they say. -/
theorem settleAll_spec (h : s.Payable l) :
    (s.settleAll l).1 = l.map (fun a => (a.order, s.verdict a)) ∧
      s.Written l (s.settleAll l).2 := by
  induction l generalizing s with
  | nil => exact ⟨rfl, .nil s⟩
  | cons a l ih =>
    obtain ⟨hresult, hfirst⟩ := h.settle
    obtain ⟨hresults, hrest⟩ := ih (h.tail hfirst)
    refine ⟨?_, hfirst.append hrest⟩
    rw [settleAll, hresult, hresults, List.map_cons]
    simp only [hfirst.verdict_eq]

/-! ## Any two orders -/

/-- In any two orders in which the same answers come, different stored orders are settled
    to the same rows, to balances of the same values, and with the same result for each
    of them, which is no overflow: if no operation is told to fail, if balances and
    points are whole hundredths, and if each balance can be counted in hundredths with
    all that is due to it. -/
theorem settled_in_any_order (hs : s.Reachable) (hquiet : s.Quiet)
    (hstored : ∀ a ∈ l, a.order ∈ s.orders) (hdistinct : (l.map (·.order)).Nodup)
    (hpoints : ∀ a ∈ l, ∀ points, a.settlement = .credit points →
      (Amount.hundredth : Int) ∣ points.value)
    (hbalances : ∀ user b, s.balance? user = some b → (Amount.hundredth : Int) ∣ b.current.value)
    (hroom : ∀ user b, s.balance? user = some b →
      b.current.value + Amount.total (due user l) ≤ Amount.ceiling) (hperm : l.Perm l') :
    (s.settleAll l).2.orders = (s.settleAll l').2.orders ∧
    (s.settleAll l).2.withdrawals = (s.settleAll l').2.withdrawals ∧
    (∀ user, ((s.settleAll l).2.balance? user).map Balance.worth =
      ((s.settleAll l').2.balance? user).map Balance.worth) ∧
    (s.settleAll l).1.Perm (s.settleAll l').1 ∧
    ∀ order result, (order, result) ∈ (s.settleAll l).1 → result ≠ .error .overflow := by
  have hids : (l.map (·.order.id)).Nodup := by
    rw [show l.map (·.order.id) = (l.map (·.order)).map (·.id) from List.map_map.symm]
    refine List.Nodup.map_on (fun o ho o' ho' => ?_) hdistinct
    obtain ⟨a, ha, rfl⟩ := List.mem_map.1 ho
    obtain ⟨a', ha', rfl⟩ := List.mem_map.1 ho'
    exact List.inj_on_of_nodup_map hs.numbered.nodup_orders (hstored a ha) (hstored a' ha')
  have hpayable : s.Payable l := by
    refine ⟨hquiet, hids, fun a ha => List.mem_map_of_mem (hstored a ha), hpoints, ?_⟩
    exact fun user b hb => ⟨hbalances user b hb, hs.current_nonneg b hb, hroom user b hb⟩
  have hpayable' : s.Payable l' := by
    refine ⟨hquiet, (hperm.map _).nodup_iff.1 hids, fun a ha => ?_, fun a ha => ?_, ?_⟩
    · exact hpayable.stored a (hperm.mem_iff.2 ha)
    · exact hpoints a (hperm.mem_iff.2 ha)
    · intro user b hb
      rw [← due_perm hperm]
      exact hpayable.room user b hb
  obtain ⟨hresults, hwritten⟩ := settleAll_spec hpayable
  obtain ⟨hresults', hwritten'⟩ := settleAll_spec hpayable'
  have hsame := hwritten.perm hids hperm
  refine ⟨hsame.orders.trans hwritten'.orders.symm,
    hsame.withdrawals.trans hwritten'.withdrawals.symm,
    fun user => (hsame.balances user).trans (hwritten'.balances user).symm, ?_, ?_⟩
  · rw [hresults, hresults']
    exact hperm.map _
  · intro order result hmem
    rw [hresults] at hmem
    obtain ⟨a, -, ha⟩ := List.mem_map.1 hmem
    cases ha
    exact s.verdict_ne_overflow a

/-- Two orders earn nothing, told with one place and with two, and a third is denied: the
    balance is worth the same, and is written with the places of the last credit. -/
theorem settled_in_any_order_nothing :
    let s := empty.operateAll [.createUser "ann" "", .createOrder "18" 1 ⟨0, 0⟩,
      .createOrder "26" 1 ⟨0, 0⟩, .createOrder "34" 1 ⟨0, 0⟩, .mark 1 .processing,
      .mark 2 .processing, .mark 3 .processing]
    let first : Answered := ⟨⟨1, 1, "18", .processing, none, ⟨0, 0⟩⟩,
      .ok ⟨"18", .processed, some (.of 0 1)⟩⟩
    let second : Answered := ⟨⟨2, 1, "26", .processing, none, ⟨0, 0⟩⟩,
      .ok ⟨"26", .processed, some (.of 0 2)⟩⟩
    let third : Answered := ⟨⟨3, 1, "34", .processing, none, ⟨0, 0⟩⟩, .error .notRegistered⟩
    let t := (s.settleAll [first, second, third]).2
    let t' := (s.settleAll [third, second, first]).2
    (t.balance? 1).map (·.current) = some (.of 0 2) ∧
      (t'.balance? 1).map (·.current) = some (.of 0 1) ∧
      t.orders = t'.orders ∧
      (t.balance? 1).map Balance.worth = (t'.balance? 1).map Balance.worth := by
  intro s first second third t t'
  have hbalance : ∀ user b, s.balance? user = some b → user = 1 ∧ b = .zero := by
    intro user b hb
    change [((1 : Int), Balance.zero)].lookup user = some b at hb
    rw [List.lookup_cons] at hb
    split at hb
    next huser =>
      cases hb
      exact ⟨beq_iff_eq.1 huser, rfl⟩
    · cases hb
  have hpoints : ∀ a ∈ [first, second, third], ∀ points, a.settlement = .credit points →
      (Amount.hundredth : Int) ∣ points.value := by
    intro a ha points hset
    simp only [List.mem_cons, List.not_mem_nil, or_false] at ha
    rcases ha with rfl | rfl | rfl
    · cases show Settlement.credit (.of 0 1) = .credit points from hset
      decide
    · cases show Settlement.credit (.of 0 2) = .credit points from hset
      decide
    · cases show Settlement.refuse = .credit points from hset
  have hsame := settled_in_any_order (s := s) ⟨_, rfl⟩ ⟨rfl, fun _ => rfl⟩ (by decide) (by decide)
    hpoints ?_ ?_ (List.reverse_perm [first, second, third]).symm
  · exact ⟨rfl, rfl, hsame.1, hsame.2.2.1 1⟩
  · intro user b hb
    rw [(hbalance user b hb).2]
    decide
  · intro user b hb
    obtain ⟨rfl, rfl⟩ := hbalance user b hb
    decide

end Store
end Loyalty
