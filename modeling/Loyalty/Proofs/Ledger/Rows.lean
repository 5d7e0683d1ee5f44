import Loyalty.Ledger.History
import Mathlib.Data.List.Basic
import Mathlib.Data.List.Nodup

/-!
# Rows of a store

What the operations do to the rows of a store, that is, to all of it but the
failures it was told (`Store.rows`): an operation that fails or overflows
leaves the rows as they are (`mark_spec`, `credit_spec`, `withdraw_spec`,
`createOrder_spec`, `createUser_spec`), and one that is done changes what it is
about. All that an operation can do to a store is one of six changes
(`Store.Change`, `operate_change`).

Orders are looked up by their ids (`Store.order?`): replacing an order shows in
the look-up of its own id only (`order?_updateOrder`).
-/

namespace Loyalty

namespace Store

variable {s s' : Store} {o : Order} {id j : Int} {f : Order → Order}

/-- The store without the failures it was told. -/
def rows (s : Store) : Store := { s with faults := .none }

theorem orders_of_rows (h : s'.rows = s.rows) : s'.orders = s.orders := (congrArg orders h :)

theorem withdrawals_of_rows (h : s'.rows = s.rows) : s'.withdrawals = s.withdrawals :=
  (congrArg withdrawals h :)

theorem balances_of_rows (h : s'.rows = s.rows) : s'.balances = s.balances :=
  (congrArg balances h :)

/-- Stores of the same rows differ in the failures they were told only. -/
theorem eq_of_rows (h : s'.rows = s.rows) : s' = { s with faults := s'.faults } := by
  cases s
  cases s'
  simp only [rows, mk.injEq] at h ⊢
  simp [h]

/-! ## Orders by their ids -/

/-- The order of that id. -/
def order? (s : Store) (id : Int) : Option Order := s.orders.find? (·.id = id)

theorem order?_congr (h : s'.orders = s.orders) (id : Int) : s'.order? id = s.order? id := by
  rw [order?, order?, h]

theorem order?_of_rows (h : s'.rows = s.rows) (id : Int) : s'.order? id = s.order? id :=
  order?_congr (orders_of_rows h) id

theorem id_of_order? (h : s.order? id = some o) : o.id = id := by
  simpa using List.find?_some h

theorem mem_of_order? (h : s.order? id = some o) : o ∈ s.orders := List.mem_of_find?_eq_some h

theorem isSome_order?_iff : (s.order? id).isSome ↔ ∃ o ∈ s.orders, o.id = id := by
  simp [order?]

/-- A row is found by its entry in a column of distinct entries. -/
theorem find?_of_nodup_map {α β : Type} [DecidableEq β] {f : α → β} {l : List α} {a : α}
    (h : (l.map f).Nodup) (ha : a ∈ l) : l.find? (fun b => f b = f a) = some a := by
  have hsome : (l.find? fun b => f b = f a).isSome := by
    rw [List.find?_isSome]
    exact ⟨a, ha, decide_eq_true rfl⟩
  obtain ⟨b, hb⟩ := Option.isSome_iff_exists.1 hsome
  have hentry : f b = f a := by simpa using List.find?_some hb
  rw [hb, List.inj_on_of_nodup_map h (List.mem_of_find?_eq_some hb) ha hentry]

/-- Where ids are distinct, every order is found by its own. -/
theorem order?_of_mem (hs : (s.orders.map (·.id)).Nodup) (ho : o ∈ s.orders) :
    s.order? o.id = some o :=
  find?_of_nodup_map hs ho

/-- Replacing an order by one of the same id shows in the look-up of that id only. -/
theorem order?_updateOrder (hf : ∀ o, (f o).id = o.id) :
    (s.updateOrder id f).order? j = (s.order? j).map fun o => if o.id = id then f o else o := by
  -- What is looked for is an id, and ids stay.
  have hp : (fun o : Order => decide (o.id = j)) ∘ (fun o => if o.id = id then f o else o) =
      fun o => decide (o.id = j) := by
    funext o
    by_cases h : o.id = id <;> simp [h, hf]
  rw [order?, order?, updateOrder, List.find?_map, hp]

theorem order?_updateOrder_self (hf : ∀ o, (f o).id = o.id) (ho : s.order? id = some o) :
    (s.updateOrder id f).order? id = some (f o) := by
  rw [order?_updateOrder hf, ho, Option.map_some, if_pos (id_of_order? ho)]

theorem order?_updateOrder_of_ne (hf : ∀ o, (f o).id = o.id) (hj : j ≠ id) :
    (s.updateOrder id f).order? j = s.order? j := by
  rw [order?_updateOrder hf]
  cases ho : s.order? j with
  | none => rfl
  | some o => rw [Option.map_some, if_neg (id_of_order? ho ▸ hj)]

/-- Replacing an order keeps what its replacement has from it. -/
theorem map_updateOrder {α : Type} {g : Order → α} (hf : ∀ o, g (f o) = g o) :
    (s.updateOrder id f).orders.map g = s.orders.map g := by
  rw [updateOrder, List.map_map]
  refine List.map_congr_left fun o _ => ?_
  by_cases h : o.id = id <;> simp [h, hf]

theorem map_id_updateOrder (hf : ∀ o, (f o).id = o.id) :
    (s.updateOrder id f).orders.map (·.id) = s.orders.map (·.id) := map_updateOrder hf

theorem forall_updateOrder {P : Order → Prop} (hs : ∀ o ∈ s.orders, P o)
    (hf : ∀ o ∈ s.orders, P (f o)) : ∀ o ∈ (s.updateOrder id f).orders, P o := by
  rw [updateOrder, List.forall_mem_map]
  intro o ho
  split_ifs
  · exact hf o ho
  · exact hs o ho

/-- Replacing an order leaves all others beside it. -/
theorem perm_updateOrder (hs : (s.orders.map (·.id)).Nodup) (ho : s.order? id = some o)
    (f : Order → Order) :
    ∃ others, s.orders.Perm (o :: others) ∧ (s.updateOrder id f).orders.Perm (f o :: others) := by
  obtain ⟨before, after, horders⟩ := List.append_of_mem (mem_of_order? ho)
  have hid : o.id = id := id_of_order? ho
  have hperm : s.orders.Perm (o :: (before ++ after)) := horders ▸ List.perm_middle
  have hne : ∀ p ∈ before ++ after, p.id ≠ id := by
    intro p hp hpid
    have hfresh := (List.nodup_cons.1 ((hperm.map (·.id)).nodup_iff.1 hs)).1
    exact hfresh (List.mem_map.2 ⟨p, hp, hpid.trans hid.symm⟩)
  have hkept : (before ++ after).map (fun p => if p.id = id then f p else p) = before ++ after :=
    (List.map_congr_left fun p hp => if_neg (hne p hp)).trans (List.map_id _)
  refine ⟨before ++ after, hperm, (hperm.map _).trans (.of_eq ?_)⟩
  rw [List.map_cons, if_pos hid, hkept]

theorem map_fst_setBalance (s : Store) (user : Int) (b : Balance) :
    (s.setBalance user b).balances.map (·.1) = s.balances.map (·.1) := by
  rw [setBalance, List.map_map]
  refine List.map_congr_left fun row _ => ?_
  by_cases hu : row.1 = user <;> simp [hu]

/-! ## Rows added -/

/-- The store with one more user, whose balance is nothing. -/
def addUser (s : Store) (login passwordHash : String) : Store :=
  { s with
    users := s.users ++ [⟨s.lastUser + 1, login, passwordHash⟩]
    lastUser := s.lastUser + 1
    balances := s.balances ++ [(s.lastUser + 1, .zero)] }

/-- The store with one more order, a new one. -/
def addOrder (s : Store) (number : String) (user : Int) (now : Timestamp) : Store :=
  { s with
    orders := s.orders ++ [⟨s.lastOrder + 1, user, number, .new, none, now⟩]
    lastOrder := s.lastOrder + 1 }

theorem order?_addOrder (s : Store) (number : String) (user : Int) (now : Timestamp) (id : Int) :
    (s.addOrder number user now).order? id = (s.order? id).or
      ([⟨s.lastOrder + 1, user, number, .new, none, now⟩].find? (·.id = id)) := by
  rw [order?, addOrder, List.find?_append, ← order?]

/-- The store with one more withdrawal. -/
def addWithdrawal (s : Store) (number : String) (amount : Amount) (user : Int) (now : Timestamp) :
    Store :=
  { s with
    withdrawals := s.withdrawals ++ [⟨s.lastWithdrawal + 1, user, number, amount, now⟩]
    lastWithdrawal := s.lastWithdrawal + 1 }

/-! ## Outcomes of the operations -/

/-- Marking an order sets its status, or fails and keeps the rows. -/
theorem mark_spec (s : Store) (id : Int) (status : OrderStatus) :
    (s.mark id status = (.ok (), s.updateOrder id fun o => { o with status }) ∧
        status ≠ .processed ∧ (s.order? id).isSome) ∨
      ∃ e s', s.mark id status = (fails e, s') ∧ s'.rows = s.rows := by
  by_cases hp : status = .processed
  · subst hp
    exact .inr ⟨_, _, rfl, rfl⟩
  have hc : status.checkMark = .ok status := if_neg hp
  rw [mark, hc]
  simp only
  split_ifs with hf ho
  · exact .inr ⟨_, _, rfl, rfl⟩
  · exact .inl ⟨rfl, hp, isSome_order?_iff.2 (by simpa using ho)⟩
  · exact .inr ⟨_, _, rfl, rfl⟩

/-- A credit settles the order and adds to the balance of its user, or fails and
    keeps the rows, or overflows, where the sum of the balance does, and changes
    nothing. -/
theorem credit_spec (s : Store) (order : Order) (amount : Amount) :
    (∃ b b', s.balance? order.user = some b ∧ b.credit amount = .ok b' ∧
        (s.order? order.id).isSome ∧ s.credit order amount = (.ok (),
          (s.updateOrder order.id fun o =>
            { o with status := .processed, accrual := some amount }).setBalance order.user b')) ∨
      (∃ e s', s.credit order amount = (fails e, s') ∧ s'.rows = s.rows) ∨
      ∃ b, s.balance? order.user = some b ∧ b.credit amount = .error .overflow ∧
        s.credit order amount = (.error .overflow, s) := by
  -- The store looks for a told failure, for the balance, for the order, and adds last.
  rw [credit]
  by_cases hf : s.faults.credits > 0
  · exact .inr (.inl ⟨_, _, if_pos hf, rfl⟩)
  rw [if_neg hf]
  cases hb : s.balance? order.user with
  | none => exact .inr (.inl ⟨_, _, rfl, rfl⟩)
  | some b =>
    by_cases ho : s.orders.any (·.id = order.id)
    · have hsome : (s.order? order.id).isSome := isSome_order?_iff.2 (by simpa using ho)
      simp only [if_pos ho]
      cases hc : b.credit amount with
      | ok b' => exact .inl ⟨b, b', rfl, hc, hsome, rfl⟩
      | error e =>
        cases e with
        | failure e => exact .inr (.inl ⟨e, s, rfl, rfl⟩)
        | overflow => exact .inr (.inr ⟨b, rfl, hc, rfl⟩)
    · simp only [if_neg ho]
      exact .inr (.inl ⟨_, _, rfl, rfl⟩)

/-- A credit that is not done changes no row. -/
theorem rows_of_credit_ne_ok {order : Order} {amount : Amount}
    (h : (s.credit order amount).1 ≠ .ok ()) :
    (s.credit order amount).2.rows = s.rows := by
  rcases s.credit_spec order amount with ⟨_, _, -, -, -, e⟩ | ⟨_, _, e, hrows⟩ | ⟨_, -, -, e⟩
  · rw [e] at h
    exact absurd rfl h
  · rw [e]
    exact hrows
  · rw [e]

/-- A withdrawal is kept, on a number that no withdrawal has, and taken from the
    balance of its user, or fails or overflows and changes nothing. It overflows
    only where the balance does. -/
theorem withdraw_spec (s : Store) (number : String) (amount : Amount) (user : Int)
    (now : Timestamp) :
    (∃ b b', s.balance? user = some b ∧ b.debit amount = (.ok (), b') ∧
        (∀ w ∈ s.withdrawals, w.number ≠ number) ∧
        s.withdraw number amount user now = (.ok (s.lastWithdrawal + 1),
          (s.addWithdrawal number amount user now).setBalance user b')) ∨
      (∃ e, s.withdraw number amount user now = (fails e, s)) ∨
      ∃ b, s.balance? user = some b ∧ (b.debit amount).1 = .error .overflow ∧
        s.withdraw number amount user now = (.error .overflow, s) := by
  rw [withdraw]
  cases hb : s.balance? user with
  | none => exact .inr (.inl ⟨_, rfl⟩)
  | some b =>
    simp only
    rcases hd : b.debit amount with ⟨r, b'⟩
    cases r with
    | error e =>
      cases e with
      | failure e => exact .inr (.inl ⟨e, rfl⟩)
      | overflow => exact .inr (.inr ⟨b, rfl, by rw [hd], rfl⟩)
    | ok u =>
      simp only
      split_ifs with hused
      · exact .inr (.inl ⟨_, rfl⟩)
      · exact .inl ⟨b, b', rfl, hd, by simpa using hused, rfl⟩

/-- An order is added as a new one of a number that no order has, or nothing
    changes. -/
theorem createOrder_spec (s : Store) (number : String) (user : Int) (now : Timestamp) :
    ((∀ o ∈ s.orders, o.number ≠ number) ∧
        s.createOrder number user now = (.ok ⟨s.lastOrder + 1, user, number, .new, none, now⟩,
          s.addOrder number user now)) ∨
      ((∃ o ∈ s.orders, o.number = number) ∧
        s.createOrder number user now = (fails (.orderExists number), s)) := by
  rw [createOrder]
  split_ifs with h
  · exact .inr ⟨by simpa using h, rfl⟩
  · exact .inl ⟨by simpa using h, rfl⟩

/-- A number is submitted to make an order of it; one that is known is only looked
    up. -/
theorem submit_snd {raw number : String} (h : OrderNumber.read raw = .ok number) (user : Int)
    (now : Timestamp) : (s.submit raw user now).2 = (s.createOrder number user now).2 := by
  rcases s.createOrder_spec number user now with ⟨_, e⟩ | ⟨_, e⟩ <;> simp only [submit, h, e]
  split
  · rfl
  · split_ifs <;> rfl

/-- A user is added with a balance of nothing and a login that no user has, or
    nothing changes. -/
theorem createUser_spec (s : Store) (login passwordHash : String) :
    ((∀ u ∈ s.users, u.login ≠ login) ∧
        s.createUser login passwordHash = (.ok ⟨s.lastUser + 1, login, passwordHash⟩,
          s.addUser login passwordHash)) ∨
      ((∃ u ∈ s.users, u.login = login) ∧
        s.createUser login passwordHash = (fails (.loginTaken login), s)) := by
  rw [createUser]
  split_ifs with h
  · exact .inr ⟨by simpa using h, rfl⟩
  · exact .inl ⟨by simpa using h, rfl⟩

/-! ## What an operation changes -/

/-- What an operation makes of the store `s`: the rows stay as they are, or there
    is one more of them, or an order is changed, and with a credit the balance of
    a user. -/
inductive Change (s : Store) : Operation → Store → Prop
  | stays (operation : Operation) (s' : Store) (rows : s'.rows = s.rows) : Change s operation s'
  | user (login passwordHash : String) (fresh : ∀ u ∈ s.users, u.login ≠ login) :
    Change s (.createUser login passwordHash) (s.addUser login passwordHash)
  | order (number : String) (user : Int) (now : Timestamp)
      (fresh : ∀ o ∈ s.orders, o.number ≠ number) :
    Change s (.createOrder number user now) (s.addOrder number user now)
  | marked (id : Int) (status : OrderStatus) (ne : status ≠ .processed) :
    Change s (.mark id status) (s.updateOrder id fun o => { o with status })
  | credited (order : Order) (amount : Amount) (b b' : Balance)
      (balance : s.balance? order.user = some b) (credit : b.credit amount = .ok b') :
    Change s (.credit order amount) ((s.updateOrder order.id fun o =>
      { o with status := .processed, accrual := some amount }).setBalance order.user b')
  | withdrawn (number : String) (amount : Amount) (user : Int) (now : Timestamp) (b b' : Balance)
      (balance : s.balance? user = some b) (debit : b.debit amount = (.ok (), b'))
      (fresh : ∀ w ∈ s.withdrawals, w.number ≠ number) :
    Change s (.withdraw number amount user now)
      ((s.addWithdrawal number amount user now).setBalance user b')

theorem operate_change (s : Store) (operation : Operation) :
    s.Change operation (s.operate operation) := by
  cases operation with
  | createUser login passwordHash =>
    rcases s.createUser_spec login passwordHash with ⟨hfresh, e⟩ | ⟨_, e⟩ <;> rw [operate, e]
    · exact .user login passwordHash hfresh
    · exact .stays _ _ rfl
  | createOrder number user now =>
    rcases s.createOrder_spec number user now with ⟨hfresh, e⟩ | ⟨_, e⟩ <;> rw [operate, e]
    · exact .order number user now hfresh
    · exact .stays _ _ rfl
  | mark id status =>
    rcases s.mark_spec id status with ⟨e, hne, _⟩ | ⟨_, s', e, hrows⟩ <;> rw [operate, e]
    · exact .marked id status hne
    · exact .stays _ _ hrows
  | credit order amount =>
    rcases s.credit_spec order amount with
      ⟨b, b', hb, hcredit, _, e⟩ | ⟨_, s', e, hrows⟩ | ⟨_, _, _, e⟩ <;> rw [operate, e]
    · exact .credited order amount b b' hb hcredit
    · exact .stays _ _ hrows
    · exact .stays _ _ rfl
  | withdraw number amount user now =>
    rcases s.withdraw_spec number amount user now with
      ⟨b, b', hb, hdebit, hfresh, e⟩ | ⟨_, e⟩ | ⟨_, _, _, e⟩ <;> rw [operate, e]
    · exact .withdrawn number amount user now b b' hb hdebit hfresh
    · exact .stays _ _ rfl
    · exact .stays _ _ rfl
  | failCredits count => exact .stays _ _ rfl
  | failMarks status count => exact .stays _ _ rfl

end Store
end Loyalty
