import Loyalty.Proofs.Ledger.Rows

/-!
# Reachable stores and their numbering

A store is *reachable* if some operations lead to it from the empty one, with
any arguments and whatever comes of them (`Store.Reachable`).

The orders, users and withdrawals of a reachable store are numbered from one in
the order in which they came, and its balances are those of its users, in the
same order (`Reachable.numbered`).
-/

namespace Loyalty

namespace Store

variable {s s' : Store}

/-! ## Reachable stores -/

/-- Some operations lead to the store from the empty one. -/
def Reachable (s : Store) : Prop := ∃ operations, operateAll empty operations = s

theorem reachable_empty : empty.Reachable := ⟨[], rfl⟩

theorem Reachable.operate (h : s.Reachable) (operation : Operation) :
    (s.operate operation).Reachable := by
  obtain ⟨operations, rfl⟩ := h
  exact ⟨operations ++ [operation], by simp [operateAll]⟩

/-- Induction along operations. -/
theorem operateAll_induct {P : Store → Prop} {operations : List Operation} (hs : P s)
    (hstep : ∀ t, ∀ operation ∈ operations, P t → P (t.operate operation)) :
    P (s.operateAll operations) := by
  induction operations generalizing s with
  | nil => exact hs
  | cons operation operations ih =>
    obtain ⟨hfirst, hrest⟩ : (∀ t, P t → P (t.operate operation)) ∧
        ∀ t, ∀ o ∈ operations, P t → P (t.operate o) :=
      ⟨fun t => hstep t operation List.mem_cons_self,
        fun t o ho => hstep t o (List.mem_cons_of_mem _ ho)⟩
    exact ih (hfirst s hs) hrest

theorem Reachable.induct {P : Store → Prop} (h : s.Reachable) (hempty : P empty)
    (hstep : ∀ t operation, P t → P (t.operate operation)) : P s := by
  obtain ⟨operations, rfl⟩ := h
  exact operateAll_induct hempty fun t operation _ => hstep t operation

/-! ## Numbering -/

/-- The numbers from one to `n`. -/
def upTo (n : Nat) : List Int := (List.range n).map fun k : Nat => (k : Int) + 1

theorem upTo_succ (n : Nat) : upTo (n + 1) = upTo n ++ [(n : Int) + 1] := by
  simp [upTo, List.range_succ]

theorem nodup_upTo (n : Nat) : (upTo n).Nodup :=
  List.nodup_range.map fun a b (h : (a : Int) + 1 = b + 1) => by omega

/-- What comes after the last of some numbered rows is none of them. -/
theorem ne_succ_of_upTo {α : Type} {f : α → Int} {l : List α} {last : Int}
    (h : l.map f = upTo l.length) (hlast : last = l.length) : ∀ a ∈ l, f a ≠ last + 1 := by
  intro a ha hid
  have hmem : f a ∈ upTo l.length := h ▸ List.mem_map_of_mem ha
  obtain ⟨k, hk, hkid⟩ := List.mem_map.1 hmem
  rw [List.mem_range] at hk
  omega

/-- Orders, users and withdrawals are numbered from one, and there is a balance
    for every user. -/
structure Numbered (s : Store) : Prop where
  orders : s.orders.map (·.id) = upTo s.orders.length
  lastOrder : s.lastOrder = s.orders.length
  withdrawals : s.withdrawals.map (·.id) = upTo s.withdrawals.length
  lastWithdrawal : s.lastWithdrawal = s.withdrawals.length
  users : s.users.map (·.id) = upTo s.users.length
  lastUser : s.lastUser = s.users.length
  balances : s.balances.map (·.1) = s.users.map (·.id)

theorem numbered_empty : empty.Numbered := ⟨rfl, rfl, rfl, rfl, rfl, rfl, rfl⟩

theorem Numbered.of_rows (h : s.Numbered) (hr : s'.rows = s.rows) : s'.Numbered := by
  rw [eq_of_rows hr]
  exact ⟨h.orders, h.lastOrder, h.withdrawals, h.lastWithdrawal, h.users, h.lastUser, h.balances⟩

theorem Numbered.updateOrder (h : s.Numbered) {id : Int} {f : Order → Order}
    (hf : ∀ o, (f o).id = o.id) : (s.updateOrder id f).Numbered :=
  { h with
    orders := by rw [map_id_updateOrder hf, h.orders, Store.updateOrder, List.length_map]
    lastOrder := by rw [Store.updateOrder, List.length_map]; exact h.lastOrder }

theorem Numbered.setBalance (h : s.Numbered) (user : Int) (b : Balance) :
    (s.setBalance user b).Numbered :=
  { h with balances := (map_fst_setBalance s user b).trans h.balances }

theorem Numbered.addUser (h : s.Numbered) (login passwordHash : String) :
    (s.addUser login passwordHash).Numbered :=
  { h with
    users := by simp [Store.addUser, h.users, h.lastUser, upTo_succ]
    lastUser := by simp [Store.addUser, h.lastUser]
    balances := by simp [Store.addUser, h.balances] }

theorem Numbered.addOrder (h : s.Numbered) (number : String) (user : Int) (now : Timestamp) :
    (s.addOrder number user now).Numbered :=
  { h with
    orders := by simp [Store.addOrder, h.orders, h.lastOrder, upTo_succ]
    lastOrder := by simp [Store.addOrder, h.lastOrder] }

theorem Numbered.addWithdrawal (h : s.Numbered) (number : String) (amount : Amount) (user : Int)
    (now : Timestamp) : (s.addWithdrawal number amount user now).Numbered :=
  { h with
    withdrawals := by simp [Store.addWithdrawal, h.withdrawals, h.lastWithdrawal, upTo_succ]
    lastWithdrawal := by simp [Store.addWithdrawal, h.lastWithdrawal] }

theorem Numbered.change {operation : Operation} (h : s.Numbered) (hchange : s.Change operation s') :
    s'.Numbered := by
  cases hchange with
  | stays operation s' rows => exact h.of_rows rows
  | user login passwordHash fresh => exact h.addUser login passwordHash
  | order number user now fresh => exact h.addOrder number user now
  | marked id status ne => exact h.updateOrder fun _ => rfl
  | credited order amount b b' balance credit =>
    refine Numbered.setBalance (h.updateOrder ?_) _ _
    exact fun _ => rfl
  | withdrawn number amount user now b b' balance debit fresh =>
    exact (h.addWithdrawal number amount user now).setBalance _ _

theorem Numbered.operate (h : s.Numbered) (operation : Operation) :
    (s.operate operation).Numbered :=
  h.change (s.operate_change operation)

theorem Reachable.numbered (h : s.Reachable) : s.Numbered :=
  h.induct numbered_empty fun _ operation ht => ht.operate operation

/-- The next ids are none of those given out. -/
theorem Numbered.order_ne (h : s.Numbered) : ∀ o ∈ s.orders, o.id ≠ s.lastOrder + 1 :=
  ne_succ_of_upTo h.orders h.lastOrder

theorem Numbered.withdrawal_ne (h : s.Numbered) :
    ∀ w ∈ s.withdrawals, w.id ≠ s.lastWithdrawal + 1 :=
  ne_succ_of_upTo h.withdrawals h.lastWithdrawal

theorem Numbered.nodup_orders (h : s.Numbered) : (s.orders.map (·.id)).Nodup :=
  h.orders ▸ nodup_upTo _

theorem isSome_balance?_iff {user : Int} :
    (s.balance? user).isSome ↔ user ∈ s.balances.map (·.1) := by
  simp only [balance?, List.lookup_isSome_iff, beq_iff_eq, List.mem_map]
  exact ⟨fun ⟨row, hrow, h⟩ => ⟨row, hrow, h.symm⟩, fun ⟨row, hrow, h⟩ => ⟨row, hrow, h.symm⟩⟩

/-- The users have a balance, and nobody else. -/
theorem Numbered.isSome_balance?_iff (h : s.Numbered) {user : Int} :
    (s.balance? user).isSome ↔ ∃ u ∈ s.users, u.id = user := by
  rw [Store.isSome_balance?_iff, h.balances, List.mem_map]

theorem Numbered.isSome_balance? (h : s.Numbered) {user : User} (huser : user ∈ s.users) :
    (s.balance? user.id).isSome := h.isSome_balance?_iff.2 ⟨user, huser, rfl⟩

end Store
end Loyalty
