import SheetQuery.Proofs.Engine.Semantics

/-!
# Counted rows

An engine counts the rows that a statement inserts, updates or deletes, and reports the last such number for every
statement without a result.

* `Counter`: what there is to say of the count; `Counter.Lawful`: when it changes, and to what.
-/

namespace SheetQuery

/-- What there is to say of the rows that an engine counts. -/
structure Counter {C : Type} (σ : Semantics C) where
  /-- The number that was counted last. -/
  changes : C → Nat
  /-- The statement inserts, updates or deletes rows. -/
  Counts : σ.Version → Text → Prop
  /-- From the first version to the second the statement itself, without the triggers that it fires, has inserted, updated
  or deleted so many rows. -/
  Changed : σ.Version → Text → List Sql.Value → σ.Version → Nat → Prop
  /-- What the statement does depends on nothing but the version that it is run on. -/
  Determined : σ.Version → Text → Prop

/-- The count is that of the last statement that inserts, updates or deletes rows; any other statement leaves it as it
is.  It is what is reported for a statement that is executed. -/
structure Counter.Lawful {C : Type} [Engine C] {σ : Semantics C} (κ : Counter σ) : Prop where
  connected {content : Option Content} {c : C} (h : Engine.connect content = .ok c) : κ.changes c = 0
  opening (v : σ.Version) : ¬ κ.Counts v Store.mappingTableSql
  reported {c c' : C} {sql : Text} {parameters : List Sql.Value} {n : Nat}
    (h : Engine.execute c sql parameters = (c', .ok n)) : n = κ.changes c'
  counted {c c' : C} (hc : Reachable σ.Sound c) {sql : Text} (hcounts : κ.Counts (σ.now c) sql)
    {parameters : List Sql.Value} {n : Nat} (h : Engine.execute c sql parameters = (c', .ok n)) :
    κ.Changed (σ.now c) sql parameters (σ.now c') n
  determined {c₁ c₁' c₂ c₂' : C} (hnow : σ.now c₂ = σ.now c₁) {sql : Text} (hcounts : κ.Counts (σ.now c₁) sql)
    (hdetermined : κ.Determined (σ.now c₁) sql) {parameters : List Sql.Value} {n₁ n₂ : Nat}
    (h₁ : Engine.execute c₁ sql parameters = (c₁', .ok n₁)) (h₂ : Engine.execute c₂ sql parameters = (c₂', .ok n₂)) :
    n₂ = n₁
  uncounted {c : C} {sql : Text} (hcounts : ¬ κ.Counts (σ.now c) sql) (parameters : List Sql.Value) :
    κ.changes (Engine.execute c sql parameters).1 = κ.changes c ∧
      κ.changes (Engine.query c sql parameters).1 = κ.changes c

end SheetQuery
