import Loyalty.Proofs.Ledger.Outcomes

/-!
# All or nothing

An operation of the store does all that it is there for (`Store.Does`), or nothing: one that
fails, or is broken off by a sum that overflows, leaves the store as it was, whatever the store
holds and whatever was asked. The one thing that can be used up is a failure that was told
(`all_or_nothing`).

This is not for want of a sum half made: a debit that overflows has already changed the
balance that it works on. That balance is a copy, which is dropped
(`all_or_nothing_half_debited`).
-/

namespace Loyalty

/-- What broke an operation off, if something did. -/
def Stop.of? {α : Type} : Outcome α → Option Stop
  | .ok _ => none
  | .error stop => some stop

namespace Store

/-- What breaks an operation of the store off, if something does. -/
def stop? (s : Store) : Operation → Option Stop
  | .createUser login passwordHash => Stop.of? (s.createUser login passwordHash).1
  | .createOrder number user now => Stop.of? (s.createOrder number user now).1
  | .mark id status => Stop.of? (s.mark id status).1
  | .credit order amount => Stop.of? (s.credit order amount).1
  | .withdraw number amount user now => Stop.of? (s.withdraw number amount user now).1
  | .failCredits _ | .failMarks .. => none

/-- How often an operation is still told to fail. -/
def told (s : Store) : Operation → Nat
  | .mark _ status => s.faults.marks status
  | .credit .. => s.faults.credits
  | _ => 0

/-- The store after one failure of an operation that was told. -/
def dropFault (s : Store) : Operation → Store
  | .mark _ status => s.dropMarkFault status
  | .credit .. => s.dropCreditFault
  | _ => s

/-- All that an operation is there for, from the store `s` to the store `s'`. -/
def Does (s s' : Store) : Operation → Prop
  | .createUser login passwordHash => s' = s.addUser login passwordHash
  | .createOrder number user now => s' = s.addOrder number user now
  | .mark id status => s' = s.setStatus id status
  | .credit order amount => ∃ b b', s.balance? order.user = some b ∧ b.credit amount = .ok b' ∧
      s' = s.setCredited order amount b'
  | .withdraw number amount user now => ∃ b b', s.balance? user = some b ∧
      b.debit amount = (.ok (), b') ∧ s' = (s.addWithdrawal number amount user now).setBalance user b'
  | .failCredits count => s' = s.failCredits count
  | .failMarks status count => s' = s.failMarks status count

/-- An operation that is not told to fail, and fails or overflows, changes nothing. -/
inductive Ends (s : Store) (operation : Operation) : Option Stop → Store → Prop
  | done (s' : Store) (does : s.Does s' operation) : Ends s operation none s'
  | undone (stop : Stop) : Ends s operation (some stop) s
  | refused (stop : Stop) (told : 0 < s.told operation) :
    Ends s operation (some stop) (s.dropFault operation)

theorem rows_dropFault (s : Store) (operation : Operation) :
    (s.dropFault operation).rows = s.rows := by
  cases operation <;> rfl

theorem createUser_ends (s : Store) (login passwordHash : String) :
    s.Ends (.createUser login passwordHash) (Stop.of? (s.createUser login passwordHash).1)
      (s.createUser login passwordHash).2 := by
  rcases s.createUser_spec login passwordHash with ⟨-, e⟩ | ⟨-, e⟩ <;> rw [e]
  · exact .done _ rfl
  · exact .undone _

theorem createOrder_ends (s : Store) (number : String) (user : Int) (now : Timestamp) :
    s.Ends (.createOrder number user now) (Stop.of? (s.createOrder number user now).1)
      (s.createOrder number user now).2 := by
  rcases s.createOrder_spec number user now with ⟨-, e⟩ | ⟨-, e⟩ <;> rw [e]
  · exact .done _ rfl
  · exact .undone _

theorem mark_ends (s : Store) (id : Int) (status : OrderStatus) :
    s.Ends (.mark id status) (Stop.of? (s.mark id status).1) (s.mark id status).2 := by
  by_cases hp : status = .processed
  · subst hp
    exact .undone _
  rcases Nat.eq_zero_or_pos (s.faults.marks status) with hquiet | htold
  · cases ho : s.order? id with
    | none =>
      rw [mark_of_unknown hquiet ho hp]
      exact .undone _
    | some o =>
      rw [mark_of_found hquiet ho hp]
      exact .done _ rfl
  · rw [mark_of_told htold hp id]
    exact .refused _ htold

theorem credit_ends (s : Store) (order : Order) (amount : Amount) :
    s.Ends (.credit order amount) (Stop.of? (s.credit order amount).1)
      (s.credit order amount).2 := by
  rcases Nat.eq_zero_or_pos s.faults.credits with hquiet | htold
  · cases hb : s.balance? order.user with
    | none =>
      rw [credit_of_no_balance hquiet hb]
      exact .undone _
    | some b =>
      cases ho : s.order? order.id with
      | none =>
        rw [credit_of_unknown hquiet hb ho]
        exact .undone _
      | some o =>
        rw [credit_of_found hquiet hb ho]
        cases hcredit : b.credit amount with
        | error stop => exact .undone stop
        | ok b' => exact .done _ ⟨b, b', hb, hcredit, rfl⟩
  · rw [credit_of_told htold]
    exact .refused _ htold

theorem withdraw_ends (s : Store) (number : String) (amount : Amount) (user : Int)
    (now : Timestamp) :
    s.Ends (.withdraw number amount user now) (Stop.of? (s.withdraw number amount user now).1)
      (s.withdraw number amount user now).2 := by
  rcases s.withdraw_spec number amount user now with
    ⟨b, b', hb, hdebit, -, e⟩ | ⟨f, e⟩ | ⟨b, -, -, e⟩ <;> rw [e]
  · exact .done _ ⟨b, b', hb, hdebit, rfl⟩
  · exact .undone _
  · exact .undone _

theorem operate_ends (s : Store) (operation : Operation) :
    s.Ends operation (s.stop? operation) (s.operate operation) := by
  cases operation with
  | createUser login passwordHash => exact s.createUser_ends login passwordHash
  | createOrder number user now => exact s.createOrder_ends number user now
  | mark id status => exact s.mark_ends id status
  | credit order amount => exact s.credit_ends order amount
  | withdraw number amount user now => exact s.withdraw_ends number amount user now
  | failCredits count => exact .done _ rfl
  | failMarks status count => exact .done _ rfl

/-- Whatever the store holds and whatever an operation is asked: if it fails or overflows, the
    store is as it was, but for one failure that was told and is used up. If it does neither,
    it has done all that it is there for. -/
theorem all_or_nothing (s : Store) (operation : Operation) :
    (∀ stop, s.stop? operation = some stop →
      (s.operate operation).rows = s.rows ∧
        (s.operate operation = s ∨
          0 < s.told operation ∧ s.operate operation = s.dropFault operation)) ∧
    (s.stop? operation = none → s.Does (s.operate operation) operation) := by
  have hends := s.operate_ends operation
  generalize s.stop? operation = stop? at hends ⊢
  generalize s.operate operation = s' at hends ⊢
  rcases hends with ⟨_, hdoes⟩ | stop | ⟨stop, htold⟩
  · exact ⟨nofun, fun _ => hdoes⟩
  · exact ⟨fun _ _ => ⟨rfl, .inl rfl⟩, nofun⟩
  · exact ⟨fun _ _ => ⟨s.rows_dropFault operation, .inr ⟨htold, rfl⟩⟩, nofun⟩

/-- Nearly as many points as 96 bits can count are spent, and another one is there. -/
def spentOut : List Deed :=
  let most : Amount := .of 79228162514264337593543950335 0
  let first : Order := ⟨1, 1, "18", .processing, none, ⟨0, 0⟩⟩
  let second : Order := ⟨2, 1, "26", .processing, none, ⟨0, 0⟩⟩
  [.register 1 [] "ann" "pw", .submit "18" 1 ⟨0, 0⟩, .claim first,
    .settle first (.ok ⟨"18", .processed, some most⟩), .spend "34" most 1 ⟨0, 0⟩,
    .submit "26" 1 ⟨0, 0⟩, .claim second, .settle second (.ok ⟨"26", .processed, some (.of 1 0)⟩)]

/-- The point is taken from a copy of the balance before the sum of what is spent overflows.
    The store still has it. -/
theorem all_or_nothing_half_debited :
    let s := empty.performAll spentOut
    let one : Amount := .of 1 0
    ∃ b, s.balance? 1 = some b ∧ (b.debit one).2.current = .zero ∧
      s.stop? (.withdraw "42" one 1 ⟨0, 0⟩) = some .overflow ∧
      (s.operate (.withdraw "42" one 1 ⟨0, 0⟩)).balance? 1 = some b := by
  have hstop : (empty.performAll spentOut).stop? (.withdraw "42" (.of 1 0) 1 ⟨0, 0⟩) =
      some .overflow := rfl
  obtain ⟨b, hb, hcurrent⟩ : ∃ b, (empty.performAll spentOut).balance? 1 = some b ∧
      (b.debit (.of 1 0)).2.current = .zero := ⟨_, rfl, rfl⟩
  refine ⟨b, hb, hcurrent, hstop, ?_⟩
  rcases ((all_or_nothing _ _).1 .overflow hstop).2 with h | ⟨htold, -⟩
  · rw [h, hb]
  · exact absurd htold (Nat.lt_irrefl 0)

end Store
end Loyalty
