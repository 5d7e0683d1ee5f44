import Loyalty.Proofs.Ledger.Events
import Loyalty.Proofs.Order.Number

/-!
# What becomes of a submitted number

A number that is submitted makes an order, or is known already, to the same user or to another one
(`Store.Answers`). Which of these it is depends on the orders of the store alone: the store is asked
to add an order first, and looks for the one that stands in the way only when it refuses. Nothing
gets in between, so that this one is always found.

Orders are never taken away and never change their ids, users or numbers. Whoever submitted a number
first therefore has it for good, whatever becomes of the order (`submitted_for_good`).
-/

namespace Loyalty.Store

open Loyalty.Text

variable {s : Store} {raw number : String} {user : Int} {now : Timestamp} {o : Order}

/-- There is one more order, a new one under an id that no order has, and nothing else changes. -/
structure Enters (s : Store) (number : String) (user : Int) (now : Timestamp) (id : Int)
    (s' : Store) : Prop where
  fresh : ∀ o ∈ s.orders, o.id ≠ id
  entered : s' = { s with
    orders := s.orders ++ [⟨id, user, number, .new, none, now⟩], lastOrder := id }

/-- What is answered to a user who submits a number, and when. -/
structure Answers (s : Store) (number : String) (user : Int) (now : Timestamp)
    (result : Outcome Submission × Store) : Prop where
  invalid : (∃ cause, result.1 = fails (.invalid cause)) ↔ ¬ OrderNumber.Valid number
  created : (∃ id, result.1 = .ok (.created id)) ↔
    OrderNumber.Valid number ∧ ∀ o ∈ s.orders, o.number ≠ number
  known : ∀ id, result.1 = .ok (.known id) ↔
    OrderNumber.Valid number ∧ ∃ o ∈ s.orders, o.number = number ∧ o.user = user ∧ o.id = id
  ofAnotherUser : ∀ n, result.1 = fails (.orderOfAnotherUser n) ↔
    n = number ∧ OrderNumber.Valid number ∧ ∃ o ∈ s.orders, o.number = number ∧ o.user ≠ user
  entered : ∀ id, result.1 = .ok (.created id) → s.Enters number user now id result.2
  unchanged : (∀ id, result.1 ≠ .ok (.created id)) → result.2 = s
  found : ∀ key, result.1 ≠ fails (.orderNotFound key)
  reported : ∀ n, result.1 ≠ fails (.orderExists n)

/-! ## One submission -/

theorem submit_of_fresh (hread : OrderNumber.read raw = .ok number)
    (hfresh : ∀ o ∈ s.orders, o.number ≠ number) (user : Int) (now : Timestamp) :
    s.submit raw user now =
      (.ok (.created (s.lastOrder + 1)), s.addOrder number user now) := by
  rcases s.createOrder_spec number user now with ⟨-, e⟩ | ⟨⟨o, ho, hnumber⟩, -⟩
  · simp only [submit, hread, e]
  · exact absurd hnumber (hfresh o ho)

/-- The order that stands in the way is found, and its user is looked at. -/
theorem submit_of_mem (hs : s.Distinct) (hread : OrderNumber.read raw = .ok o.number)
    (ho : o ∈ s.orders) (user : Int) (now : Timestamp) :
    s.submit raw user now = (if o.user = user then .ok (.known o.id)
      else fails (.orderOfAnotherUser o.number), s) := by
  rcases s.createOrder_spec o.number user now with ⟨hfresh, -⟩ | ⟨-, e⟩
  · exact absurd rfl (hfresh o ho)
  · simp only [submit, hread, e, hs.findOrder?_of_mem ho]
    split_ifs <;> rfl

theorem answers_of_faulty (hinvalid : ¬ OrderNumber.Valid number) (cause : Invalid) :
    s.Answers number user now (fails (.invalid cause), s) := by
  constructor <;> simp [hinvalid]

theorem answers_of_fresh (hs : s.Numbered) (hvalid : OrderNumber.Valid number)
    (hfresh : ∀ o ∈ s.orders, o.number ≠ number) :
    s.Answers number user now
      (.ok (.created (s.lastOrder + 1)), s.addOrder number user now) where
  invalid := by simp [hvalid]
  created := iff_of_true ⟨_, rfl⟩ ⟨hvalid, hfresh⟩
  known id := by
    simp only [Except.ok.injEq, reduceCtorEq, false_iff]
    rintro ⟨-, o, ho, hnumber, -⟩
    exact hfresh o ho hnumber
  ofAnotherUser n := by
    simp only [reduceCtorEq, false_iff]
    rintro ⟨-, -, o, ho, hnumber, -⟩
    exact hfresh o ho hnumber
  entered id h := by
    cases h
    exact ⟨hs.order_ne, rfl⟩
  unchanged h := absurd rfl (h _)
  found := by simp
  reported := by simp

theorem answers_of_mem (hs : s.Distinct) (hvalid : OrderNumber.Valid o.number)
    (ho : o ∈ s.orders) :
    s.Answers o.number user now (if o.user = user then .ok (.known o.id)
      else fails (.orderOfAnotherUser o.number), s) := by
  -- No other order has the number.
  have hall (P : Order → Prop) : (∃ p ∈ s.orders, p.number = o.number ∧ P p) ↔ P o := by
    constructor
    · rintro ⟨p, hp, hnumber, h⟩
      rwa [List.inj_on_of_nodup_map hs.orders hp ho hnumber] at h
    · exact fun h => ⟨o, ho, rfl, h⟩
  have hused : ¬ ∀ p ∈ s.orders, p.number ≠ o.number := fun h => h o ho rfl
  by_cases huser : o.user = user
  · constructor <;> simp [hvalid, hall, hused, huser]
  · constructor <;> simp [hvalid, hall, hused, huser]
    case ofAnotherUser => exact fun _ => eq_comm

theorem answers_submit (hs : s.Reachable) (raw : String) (user : Int) (now : Timestamp) :
    s.Answers (trim raw) user now (s.submit raw user now) := by
  rcases OrderNumber.read_cases raw with ⟨hvalid, hread⟩ | ⟨cause, hfaulty, hread⟩
  · by_cases hfresh : ∀ o ∈ s.orders, o.number ≠ trim raw
    · rw [submit_of_fresh hread hfresh]
      exact answers_of_fresh hs.numbered hvalid hfresh
    · simp only [ne_eq, not_forall, not_not] at hfresh
      obtain ⟨o, ho, hnumber⟩ := hfresh
      rw [← hnumber] at hvalid hread ⊢
      rw [submit_of_mem hs.distinct hread ho]
      exact answers_of_mem hs.distinct hvalid ho
  · have hsubmit : s.submit raw user now = (fails (.invalid cause), s) := by
      simp only [submit, hread]
    rw [hsubmit]
    exact answers_of_faulty hfaulty.not_valid cause

/-! ## All later ones -/

/-- In every store to which operations lead, a submission is answered by the orders that are there.
    Where it makes an order, every later submission of the same number, under any text and after
    anything that may happen, finds this order: it is known to its user, and refused to all
    others. -/
theorem submitted_for_good (hs : s.Reachable) (raw : String) (user : Int) (now : Timestamp) :
    s.Answers (trim raw) user now (s.submit raw user now) ∧
    ∀ id, (s.submit raw user now).1 = .ok (.created id) →
      ∀ later text, trim text = trim raw → ∀ other time,
        let t := (s.submit raw user now).2.happenAll later
        t.submit text other time = (if user = other then .ok (.known id)
          else fails (.orderOfAnotherUser (trim raw)), t) := by
  have hanswers := answers_submit hs raw user now
  refine ⟨hanswers, fun id hid later text htext other time => ?_⟩
  intro t
  have hvalid : OrderNumber.Valid (trim raw) := (hanswers.created.1 ⟨id, hid⟩).1
  have hentered := (hanswers.entered id hid).entered
  -- The order is there when it is made, and is kept from then on.
  obtain ⟨o, ho, rfl, rfl, hnumber⟩ : ∃ o ∈ t.orders, o.id = id ∧ o.user = user ∧
      o.number = trim raw := by
    refine (keeps_happenAll _ later).exists_order (o := ⟨id, user, trim raw, .new, none, now⟩) ?_
    rw [hentered]
    exact List.mem_append_right _ (List.mem_singleton_self _)
  have ht : t.Reachable :=
    reachable_happenAll (hs.served (perform_served s (.submit raw o.user now))) later
  have hread : OrderNumber.read text = .ok o.number := by
    rcases OrderNumber.read_cases text with ⟨-, hread⟩ | ⟨cause, hfaulty, -⟩
    · rw [hread, htext, hnumber]
    · exact absurd (htext ▸ hvalid) hfaulty.not_valid
  rw [submit_of_mem ht.distinct hread ho, hnumber]

/-- Ann submits a number before Bob does. Her order is taken up and settled in between. -/
theorem submitted_for_good_settled :
    let s := empty.operateAll [.createUser "ann" "pw", .createUser "bob" "pw"]
    let order : Order := ⟨1, 1, "18", .new, none, ⟨0, 0⟩⟩
    let later : List Event :=
      [.deed (.claim order), .deed (.settle order (.ok ⟨"18", .processed, some (.of 3 0)⟩))]
    let t := (s.submit " 18" 1 ⟨0, 0⟩).2.happenAll later
    (s.submit " 18" 1 ⟨0, 0⟩).1 = .ok (.created 1) ∧
      (t.order? 1).map (·.status) = some .processed ∧
      (t.submit "18\n" 1 ⟨9, 0⟩).1 = .ok (.known 1) ∧
      t.submit "18\n" 2 ⟨9, 0⟩ = (fails (.orderOfAnotherUser "18"), t) := by
  intro s order later t
  have hcreated : (s.submit " 18" 1 ⟨0, 0⟩).1 = .ok (.created 1) := rfl
  obtain ⟨-, hlater⟩ := submitted_for_good (s := s) ⟨_, rfl⟩ " 18" 1 ⟨0, 0⟩
  have hfound := hlater 1 hcreated later "18\n" rfl
  exact ⟨hcreated, rfl, congrArg Prod.fst (hfound 1 ⟨9, 0⟩), hfound 2 ⟨9, 0⟩⟩

end Loyalty.Store
