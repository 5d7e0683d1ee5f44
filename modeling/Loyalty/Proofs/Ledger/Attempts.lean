import Loyalty.Proofs.Ledger.Outcomes

/-!
# Attempts leave no trace

An order that is new is claimed and settled, and again if it comes to be new again,
until an attempt settles it. Nothing of what the ledger keeps shows how often that
was tried (`traceless`).

* An attempt that comes to nothing (`Idle`) leaves all rows as they were
  (`rows_attempt`): a claim and the mark that takes it back cancel, and a write that
  the store refuses writes nothing.
* So does any number of them (`rows_attemptAll`).
* An attempt that the store accepts makes the same rows of the same rows, whatever
  else it is told to refuse (`attempt_rows`).
-/

namespace Loyalty

/-- An order is claimed and then settled by an answer. -/
structure Attempt where
  /-- what is told to fail before the attempt begins, from what still was -/
  told : Faults → Faults
  reply : Reply

/-- The answer does not settle the order: it is none that could, or the store is told
    to refuse what it asks for. -/
inductive Fruitless (faults : Faults) : Reply → Prop
  | rateLimited (pause : Span) : Fruitless faults (.error (.rateLimited pause))
  | unavailable (reason : String) : Fruitless faults (.error (.unavailable reason))
  | unexpectedResponse (status : Nat) (detail : String) :
    Fruitless faults (.error (.unexpectedResponse status detail))
  | registered (r : Resolution) (status : r.status = .registered) : Fruitless faults (.ok r)
  | processing (r : Resolution) (status : r.status = .processing) : Fruitless faults (.ok r)
  | unknown (r : Resolution) (name : String) (status : r.status = .unknown name) :
    Fruitless faults (.ok r)
  | negative (r : Resolution) (status : r.status = .processed) (points : r.points.value < 0) :
    Fruitless faults (.ok r)
  | creditRefused (r : Resolution) (status : r.status = .processed) (told : 0 < faults.credits) :
    Fruitless faults (.ok r)
  | markRefused (r : Resolution) (status : r.status = .invalid)
      (told : 0 < faults.marks .invalid) : Fruitless faults (.ok r)
  | denialRefused (told : 0 < faults.marks .invalid) : Fruitless faults (.error .notRegistered)

/-- An attempt comes to nothing, though neither the claim nor taking it back is told to
    fail. -/
structure Idle (faults : Faults) (reply : Reply) : Prop where
  claim : faults.marks .processing = 0
  release : faults.marks .new = 0
  fruitless : Fruitless faults reply

/-- What such an answer asks for is to give the order back, or is not taken. -/
theorem Fruitless.asks {s : Store} {reply : Reply} (h : Fruitless s.faults reply) (order : Order) :
    Settlement.ofReply reply = .giveBack ∨ ∃ f, s.Declines order reply f := by
  cases h with
  | rateLimited | unavailable | unexpectedResponse => exact .inl rfl
  | registered r hstatus | processing r hstatus | unknown r name hstatus =>
    exact .inl (by simp only [Settlement.ofReply, hstatus])
  | negative r hstatus hpoints =>
    exact .inl ((Settlement.ofReply_of_processed hstatus).trans (if_neg (not_le.2 hpoints)))
  | creditRefused r hstatus told =>
    by_cases hpoints : 0 ≤ r.points.value
    · exact .inr ⟨_, .award r.points ⟨r, rfl, hstatus, rfl, hpoints⟩ told⟩
    · exact .inl ((Settlement.ofReply_of_processed hstatus).trans (if_neg hpoints))
  | markRefused r hstatus told => exact .inr ⟨_, .denial (.inr ⟨r, rfl, hstatus⟩) told⟩
  | denialRefused told => exact .inr ⟨_, .denial (.inl rfl) told⟩

namespace Store

variable {s s' : Store} {order o : Order} {reply : Reply} {settlement : Settlement}

/-- The store after what is to fail has been told. -/
def tell (s : Store) (told : Faults → Faults) : Store := { s with faults := told s.faults }

theorem rows_tell (s : Store) (told : Faults → Faults) : (s.tell told).rows = s.rows := rfl

/-- Claims an order and settles it. -/
def attempt (s : Store) (order : Order) (attempt : Attempt) : Outcome Settlement × Store :=
  match (s.tell attempt.told).claim order with
  | (.ok (), s) => s.settle order attempt.reply
  | (.error e, s) => (.error e, s)

/-- The store after some attempts. -/
def attemptAll (s : Store) (order : Order) (attempts : List Attempt) : Store :=
  attempts.foldl (fun s attempt => (s.attempt order attempt).2) s

/-- All attempts come to nothing, each in the store that those before it left. -/
def AllIdle (order : Order) : Store → List Attempt → Prop
  | _, [] => True
  | s, attempt :: attempts =>
    Idle (attempt.told s.faults) attempt.reply ∧
      AllIdle order (s.attempt order attempt).2 attempts

/-! ## Attempts that come to nothing -/

/-- A new order that gets another status and is made new again is as it was. -/
theorem setStatus_setStatus_new (hs : (s.orders.map (·.id)).Nodup) (horder : order ∈ s.orders)
    (hnew : order.status = .new) (status : OrderStatus) :
    (s.setStatus order.id status).setStatus order.id .new = s := by
  -- Ids are distinct, so that the order of this id is the one that was new.
  have hkeep : ∀ o ∈ s.orders,
      (if o.id = order.id then { o with status := .new } else o) = o := by
    intro o ho
    split_ifs with hid
    · rw [List.inj_on_of_nodup_map hs ho horder hid, ← hnew]
    · rfl
  have horders : ((s.setStatus order.id status).setStatus order.id .new).orders = s.orders := by
    rw [setStatus, setStatus, updateOrder, updateOrder, List.map_map]
    refine (List.map_congr_left fun o ho => ?_).trans (List.map_id _)
    rw [id, Function.comp_apply]
    refine Eq.trans ?_ (hkeep o ho)
    by_cases hid : o.id = order.id <;> simp [hid]
  calc (s.setStatus order.id status).setStatus order.id .new
      = { s with orders := ((s.setStatus order.id status).setStatus order.id .new).orders } := rfl
    _ = s := by rw [horders]

theorem rows_setStatus (h : s'.rows = s.rows) (id : Int) (status : OrderStatus) :
    (s'.setStatus id status).rows = (s.setStatus id status).rows := by
  rw [eq_of_rows h]
  rfl

/-- Settling that comes to nothing makes the order new again and does nothing else. -/
theorem rows_settle (h : Fruitless s.faults reply) (hnew : s.faults.marks .new = 0)
    (ho : s.order? order.id = some o) :
    (s.settle order reply).2.rows = (s.setStatus order.id .new).rows := by
  rcases h.asks order with hgive | ⟨f, hdeclines⟩
  · rw [settle_of_giveBack hgive hnew ho]
  · obtain ⟨hfinal, s', hwrite, hrows, hsame⟩ := hdeclines.write
    have ho' : s'.order? order.id = some o := (order?_of_rows hrows order.id).trans ho
    rw [settle_of_refused hwrite hfinal (hsame.trans hnew) ho']
    exact rows_setStatus hrows order.id .new

/-- An attempt that comes to nothing leaves the rows as they were. -/
theorem rows_attempt {attempt : Attempt} (hs : (s.orders.map (·.id)).Nodup)
    (horder : order ∈ s.orders) (hnew : order.status = .new)
    (h : Idle (attempt.told s.faults) attempt.reply) :
    (s.attempt order attempt).2.rows = s.rows := by
  have ho : (s.tell attempt.told).order? order.id = some order := order?_of_mem hs horder
  have hclaim : (s.tell attempt.told).claim order =
      (.ok (), (s.tell attempt.told).setStatus order.id .processing) :=
    mark_of_found h.claim ho (by decide)
  simp only [Store.attempt, hclaim]
  calc _ = (((s.tell attempt.told).setStatus order.id .processing).setStatus order.id .new).rows :=
        rows_settle h.fruitless h.release (order?_setStatus ho .processing)
    _ = (s.tell attempt.told).rows :=
        congrArg rows (setStatus_setStatus_new (s := s.tell attempt.told) hs horder hnew .processing)
    _ = s.rows := rows_tell s attempt.told

theorem rows_attemptAll {attempts : List Attempt} (hs : (s.orders.map (·.id)).Nodup)
    (horder : order ∈ s.orders) (hnew : order.status = .new) (h : s.AllIdle order attempts) :
    (s.attemptAll order attempts).rows = s.rows := by
  -- What the first attempt keeps is what the others need of the store: its orders.
  induction attempts generalizing s with
  | nil => rfl
  | cons attempt attempts ih =>
    have hfirst := rows_attempt hs horder hnew h.1
    have horders := orders_of_rows hfirst
    exact (ih (horders ▸ hs) (horders ▸ horder) h.2).trans hfirst

/-! ## Attempts that are accepted -/

theorem mark_rows {id : Int} {status : OrderStatus} (h : s.mark id status = (.ok (), s')) :
    s.rows.mark id status = (.ok (), s'.rows) := by
  rcases s.mark_spec id status with ⟨hmark, hne, hsome⟩ | ⟨f, t, hmark, -⟩ <;> rw [hmark] at h
  · cases h
    obtain ⟨o, ho⟩ := Option.isSome_iff_exists.1 hsome
    exact mark_of_found rfl ho hne
  · cases h

theorem credit_rows {points : Amount} (h : s.credit order points = (.ok (), s')) :
    s.rows.credit order points = (.ok (), s'.rows) := by
  rcases s.credit_spec order points with
    ⟨b, b', hb, hsum, hsome, hcredit⟩ | ⟨f, t, hcredit, -⟩ | ⟨b, -, -, hcredit⟩ <;>
    rw [hcredit] at h
  · cases h
    obtain ⟨o, ho⟩ := Option.isSome_iff_exists.1 hsome
    have hrows := credit_of_found (s := s.rows) rfl hb ho points
    rwa [hsum] at hrows
  · cases h
  · cases h

theorem write_rows (h : s.write order settlement = (.ok (), s')) :
    s.rows.write order settlement = (.ok (), s'.rows) := by
  cases settlement with
  | credit points => exact credit_rows h
  | refuse =>
    rw [write] at h
    exact mark_rows h
  | giveBack =>
    rw [write, release] at h
    exact mark_rows h

theorem settle_rows (h : s.settle order reply = (.ok settlement, s')) :
    s.rows.settle order reply = (.ok settlement, s'.rows) := by
  obtain ⟨rfl, hwrite⟩ := settle_eq_ok h
  exact settle_of_written (write_rows hwrite)

/-- An attempt that is accepted is accepted where nothing is told to fail, and makes the
    same rows there. -/
theorem attempt_rows {told : Faults → Faults}
    (h : s.attempt order ⟨told, reply⟩ = (.ok settlement, s')) :
    s.rows.attempt order ⟨fun _ => .none, reply⟩ = (.ok settlement, s'.rows) := by
  -- One write claims and one settles; a write that succeeds was told nothing.
  rcases hclaim : (s.tell told).claim order with ⟨result, claimed⟩
  simp only [attempt, hclaim] at h
  cases result with
  | error e => cases h
  | ok u =>
    have hrows : (s.rows.tell fun _ => .none).claim order = (.ok (), claimed.rows) :=
      mark_rows (s := s.tell told) hclaim
    simp only [attempt, hrows]
    exact settle_rows h

/-- An order that is settled after attempts that came to nothing makes of the store
    what the last attempt makes of it alone: it is accepted where nothing is told to
    fail, and wherever it is accepted the same rows come of it. -/
theorem traceless (hs : s.Reachable) (horder : order ∈ s.orders) (hnew : order.status = .new)
    {attempts : List Attempt} (hidle : s.AllIdle order attempts) {last : Attempt}
    (h : (s.attemptAll order attempts).attempt order last = (.ok settlement, s')) :
    s.attempt order ⟨fun _ => .none, last.reply⟩ = (.ok settlement, s'.rows) ∧
      ∀ told settlement' alone,
        s.attempt order ⟨told, last.reply⟩ = (.ok settlement', alone) →
        settlement' = settlement ∧ alone.rows = s'.rows := by
  have hrows := rows_attemptAll hs.numbered.nodup_orders horder hnew hidle
  have hlast : s.rows.attempt order ⟨fun _ => .none, last.reply⟩ = (.ok settlement, s'.rows) :=
    hrows ▸ attempt_rows h
  refine ⟨hlast, fun told settlement' alone halone => ?_⟩
  have hsame := hlast.symm.trans (attempt_rows halone)
  simp only [Prod.mk.injEq, Except.ok.injEq] at hsame
  exact ⟨hsame.1.symm, hsame.2.symm⟩

/-- A credit that was refused and a pause do not show in the credit that follows. -/
theorem traceless_thirdTime :
    let s := empty.operateAll [.createUser "ann" "", .createOrder "18" 1 ⟨0, 0⟩]
    let order : Order := ⟨1, 1, "18", .new, none, ⟨0, 0⟩⟩
    let reply : Reply := .ok ⟨"18", .processed, some (.of 5 0)⟩
    let attempts : List Attempt := [⟨fun faults => { faults with credits := 1 }, reply⟩,
      ⟨id, .error (.rateLimited (.seconds 60))⟩]
    ∃ s', (s.attemptAll order attempts).attempt order ⟨id, reply⟩ =
        (.ok (.credit (.of 5 0)), s') ∧
      s.attempt order ⟨fun _ => .none, reply⟩ = (.ok (.credit (.of 5 0)), s'.rows) := by
  intro s order reply attempts
  have horder : order ∈ s.orders := List.mem_singleton.2 rfl
  have hidle : s.AllIdle order attempts :=
    ⟨⟨rfl, rfl, .creditRefused _ rfl (by decide)⟩, ⟨rfl, rfl, .rateLimited _⟩, trivial⟩
  obtain ⟨s', haccepted⟩ : ∃ s', (s.attemptAll order attempts).attempt order ⟨id, reply⟩ =
      (.ok (.credit (.of 5 0)), s') := ⟨_, rfl⟩
  exact ⟨s', haccepted, (traceless ⟨_, rfl⟩ horder rfl hidle haccepted).1⟩

end Store
end Loyalty
