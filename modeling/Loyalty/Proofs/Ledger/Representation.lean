import Loyalty.Proofs.Ledger.Balances
import Loyalty.Proofs.Ledger.Numbering

/-!
# What holds of every store

A store that operations lead to, whatever they were asked and whatever came of
them, is *represented* as it should be (`represented`):

* its rows are numbered from one in the order in which they came, and there is a
  balance for every user and nobody else (`Numbered`);
* no two orders have one number, no two withdrawals have, and no two users have
  one login (`Distinct`);
* every processed order has an accrual, which is not negative (`Accrued`);
* no operation takes a row away, or changes anything of it but the status and the
  accrual of an order and the points of a balance (`Keeps`).
-/

namespace Loyalty

/-- What never changes of an order. -/
def Order.fixed (o : Order) : Int × Int × String × Timestamp :=
  (o.id, o.user, o.number, o.createdAt)

namespace Store

variable {s s' t : Store} {operation : Operation} {id : Int} {f : Order → Order}

/-! ## Distinct numbers and logins -/

/-- No number is used by two orders, or by two withdrawals, and no login by two
    users. -/
structure Distinct (s : Store) : Prop where
  orders : (s.orders.map (·.number)).Nodup
  withdrawals : (s.withdrawals.map (·.number)).Nodup
  logins : (s.users.map (·.login)).Nodup

theorem distinct_empty : empty.Distinct := ⟨List.nodup_nil, List.nodup_nil, List.nodup_nil⟩

/-- One more row keeps a column distinct, if no row has its entry. -/
theorem nodup_map_append {α β : Type} {f : α → β} {l : List α} {a : α} (h : (l.map f).Nodup)
    (ha : ∀ b ∈ l, f b ≠ f a) : ((l ++ [a]).map f).Nodup := by
  rw [List.map_append, List.map_singleton]
  refine h.append (List.nodup_singleton _) ?_
  rw [List.disjoint_singleton, List.mem_map]
  rintro ⟨b, hb, hab⟩
  exact ha b hb hab

theorem Distinct.updateOrder (h : s.Distinct) (hf : ∀ o, (f o).number = o.number) :
    (s.updateOrder id f).Distinct :=
  { h with orders := by rw [map_updateOrder hf]; exact h.orders }

theorem Distinct.setBalance (h : s.Distinct) (user : Int) (b : Balance) :
    (s.setBalance user b).Distinct :=
  ⟨h.orders, h.withdrawals, h.logins⟩

theorem Distinct.change (h : s.Distinct) (hchange : s.Change operation s') : s'.Distinct := by
  cases hchange with
  | stays operation s' rows =>
    rw [eq_of_rows rows]
    exact ⟨h.orders, h.withdrawals, h.logins⟩
  | user login passwordHash fresh => exact { h with logins := nodup_map_append h.logins fresh }
  | order number user now fresh => exact { h with orders := nodup_map_append h.orders fresh }
  | marked id status ne => exact h.updateOrder fun _ => rfl
  | credited order amount b b' balance credit =>
    refine Distinct.setBalance (h.updateOrder ?_) _ _
    exact fun _ => rfl
  | withdrawn number amount user now b b' balance debit fresh =>
    exact { h with withdrawals := nodup_map_append h.withdrawals fresh }

theorem Reachable.distinct (h : s.Reachable) : s.Distinct :=
  h.induct distinct_empty fun t operation ht => ht.change (t.operate_change operation)

/-- A user is found by the login, which nobody else has. -/
theorem Distinct.findUser?_of_mem {user : User} (h : s.Distinct) (huser : user ∈ s.users) :
    s.findUser? user.login = some user :=
  find?_of_nodup_map h.logins huser

/-- An order is found by its number, which no other has. -/
theorem Distinct.findOrder?_of_mem {o : Order} (h : s.Distinct) (ho : o ∈ s.orders) :
    s.findOrder? o.number = some o :=
  find?_of_nodup_map h.orders ho

/-! ## Accruals -/

/-- What a processed order has earned is known, and not negative. -/
def Accrued (s : Store) : Prop :=
  ∀ o ∈ s.orders, o.status = .processed → ∃ a, o.accrual = some a ∧ 0 ≤ a.value

theorem Accrued.change (h : s.Accrued) (hchange : s.Change operation s') : s'.Accrued := by
  cases hchange with
  | stays operation s' rows => rwa [Accrued, orders_of_rows rows]
  | user login passwordHash fresh => exact h
  | order number user now fresh =>
    rw [Accrued, addOrder, List.forall_mem_append]
    exact ⟨h, by simp⟩
  | marked id status ne => exact forall_updateOrder h fun o _ hprocessed => absurd hprocessed ne
  | credited order amount b b' balance credit =>
    refine forall_updateOrder h fun o _ _ => ⟨amount, rfl, ?_⟩
    exact Balance.nonneg_of_credit credit (by simp [fails])
  | withdrawn number amount user now b b' balance debit fresh => exact h

/-! ## Rows that stay -/

/-- All rows of `s` are rows of `s'`, in their places: users and withdrawals as
    they were, and what never changes of orders and balances. -/
structure Keeps (s s' : Store) : Prop where
  orders : s.orders.map Order.fixed <+: s'.orders.map Order.fixed
  withdrawals : s.withdrawals <+: s'.withdrawals
  users : s.users <+: s'.users
  balances : s.balances.map (·.1) <+: s'.balances.map (·.1)

theorem Keeps.refl (s : Store) : s.Keeps s :=
  ⟨List.prefix_rfl, List.prefix_rfl, List.prefix_rfl, List.prefix_rfl⟩

theorem Keeps.trans (h : s.Keeps s') (h' : s'.Keeps t) : s.Keeps t :=
  ⟨h.orders.trans h'.orders, h.withdrawals.trans h'.withdrawals, h.users.trans h'.users,
    h.balances.trans h'.balances⟩

/-- An order that is kept is still there, and still the same user's, of the same number. -/
theorem Keeps.exists_order {o : Order} (h : s.Keeps s') (ho : o ∈ s.orders) :
    ∃ o' ∈ s'.orders, o'.id = o.id ∧ o'.user = o.user ∧ o'.number = o.number := by
  have hfixed : o.fixed ∈ s'.orders.map Order.fixed :=
    h.orders.subset (List.mem_map_of_mem ho)
  obtain ⟨o', ho', hsame⟩ := List.mem_map.1 hfixed
  simp only [Order.fixed, Prod.mk.injEq] at hsame
  exact ⟨o', ho', hsame.1, hsame.2.1, hsame.2.2.1⟩

theorem keeps_updateOrder (hf : ∀ o, (f o).fixed = o.fixed) : s.Keeps (s.updateOrder id f) :=
  { Keeps.refl s with orders := (map_updateOrder hf).symm ▸ List.prefix_rfl }

theorem keeps_setBalance (s : Store) (user : Int) (b : Balance) : s.Keeps (s.setBalance user b) :=
  { Keeps.refl s with balances := (map_fst_setBalance s user b).symm ▸ List.prefix_rfl }

theorem keeps_addWithdrawal (s : Store) (number : String) (amount : Amount) (user : Int)
    (now : Timestamp) : s.Keeps (s.addWithdrawal number amount user now) :=
  { Keeps.refl s with withdrawals := List.prefix_append _ _ }

theorem Change.keeps (hchange : s.Change operation s') : s.Keeps s' := by
  cases hchange with
  | stays operation s' rows =>
    rw [eq_of_rows rows]
    exact { Keeps.refl s with }
  | user login passwordHash fresh =>
    exact { Keeps.refl s with
      users := List.prefix_append _ _
      balances := (List.prefix_append _ _).map _ }
  | order number user now fresh =>
    exact { Keeps.refl s with orders := (List.prefix_append _ _).map _ }
  | marked id status ne => exact keeps_updateOrder fun _ => rfl
  | credited order amount b b' balance credit =>
    refine (keeps_updateOrder ?_).trans (keeps_setBalance _ _ _)
    exact fun _ => rfl
  | withdrawn number amount user now b b' balance debit fresh =>
    exact (keeps_addWithdrawal s number amount user now).trans (keeps_setBalance _ _ _)

theorem keeps_operate (s : Store) (operation : Operation) : s.Keeps (s.operate operation) :=
  (s.operate_change operation).keeps

theorem keeps_operateAll (s : Store) (operations : List Operation) :
    s.Keeps (s.operateAll operations) :=
  operateAll_induct (Keeps.refl s) fun t operation _ ht => ht.trans (keeps_operate t operation)

/-! ## Every store -/

/-- After any operations, the rows of a store are numbered in the order in which
    they came, their numbers and logins are distinct, the users and nobody else
    have a balance, and what processed orders have earned is known and not
    negative. No further operation takes a row away or changes what never
    changes of it. -/
theorem represented (operations : List Operation) (operation : Operation) :
    let s := empty.operateAll operations
    s.Numbered ∧ s.Distinct ∧
      (∀ user, (s.balance? user).isSome ↔ ∃ u ∈ s.users, u.id = user) ∧
      (∀ o ∈ s.orders, o.status = .processed → ∃ a, o.accrual = some a ∧ 0 ≤ a.value) ∧
      s.Keeps (s.operate operation) := by
  intro s
  have hs : s.Reachable := ⟨operations, rfl⟩
  have haccrued : s.Accrued :=
    hs.induct (fun o ho => absurd ho List.not_mem_nil) fun t operation ht =>
      ht.change (t.operate_change operation)
  exact ⟨hs.numbered, hs.distinct, fun user => hs.numbered.isSome_balance?_iff, haccrued,
    keeps_operate s operation⟩

end Store
end Loyalty
