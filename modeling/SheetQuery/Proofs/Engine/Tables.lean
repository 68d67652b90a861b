import SheetQuery.Proofs.Engine.Semantics

/-!
# What an engine makes of tables

The laws of tables that loads create and fill, and of the queries on tables.

* `Alike`: connections on which statements on a name act alike.
* `MakesTables`: a table that is created and filled has its rows, and all others stay as they are.
* `NamesTables`, `TakesNames`: the names of tables, and those under which none can be created.
* `ActsLocally`: statements on a table depend on what is under its name alone.
* `ListsTables`, `DescribesTables`, `ShowsTables`: what the queries on tables answer.
-/

namespace SheetQuery

namespace Semantics

variable {C : Type} (σ : Semantics C)

/-- For statements on the name the connections are alike: the same is under it, nothing else takes part, and the settings
are the same. -/
structure Alike (name : Text) (c c' : C) : Prop where
  settings : σ.settings c' = σ.settings c
  under : σ.under (σ.now c') name = σ.under (σ.now c) name
  clear : σ.Clear (σ.now c) name
  clear' : σ.Clear (σ.now c') name

variable {σ} in
theorem Alike.symm {name : Text} {c c' : C} (h : σ.Alike name c c') : σ.Alike name c' c :=
  ⟨h.settings.symm, h.under.symm, h.clear', h.clear⟩

variable {σ} in
theorem Alike.trans {name : Text} {c c' c'' : C} (h : σ.Alike name c c') (h' : σ.Alike name c' c'') :
    σ.Alike name c c'' :=
  ⟨h'.settings.trans h.settings, h'.under.trans h.under, h.clear, h'.clear'⟩

variable [Engine C]

/-- A table is created under a word, and its rows are put behind each other.  No statement of a load makes a trigger, a
view or a foreign key, or changes a table that it is not about. -/
structure MakesTables : Prop where
  created {c c' : C} {table : Text} {headers : List Text} (hword : table.all Identifier.isWordChar)
    (hclear : σ.Clear (σ.now c) table) {n : Nat}
    (h : Engine.execute c (planTable table headers).createSql [] = (c', .ok n))
    (hvisible : ¬ σ.Hidden (σ.now c') table) : σ.Stores (σ.now c') table (planTable table headers).identifiers []
  prepare {c : C} {table : Text} {headers : List Text} {rows : List (List Text)}
    (h : σ.Stores (σ.now c) table (planTable table headers).identifiers rows) :
    ∃ names, Engine.prepare c (planTable table headers).insertSql = .ok names
  inserted {c c' : C} {table : Text} {headers : List Text} {rows : List (List Text)}
    (h : σ.Stores (σ.now c) table (planTable table headers).identifiers rows) {cells : List Text}
    (hcells : cells.length = (planTable table headers).columns.length) {n : Nat}
    (hinsert : Engine.execute c (planTable table headers).insertSql (cells.map .text) = (c', .ok n)) :
    σ.Stores (σ.now c') table (planTable table headers).identifiers (rows ++ [cells])
  refused {c c' : C} {table : Text} {headers : List Text} {rows : List (List Text)}
    (h : σ.Stores (σ.now c) table (planTable table headers).identifiers rows) (hwrites : σ.Writes (σ.settings c))
    {cells : List Text} (hcells : cells.length = (planTable table headers).columns.length) {e : Failure}
    (hinsert : Engine.execute c (planTable table headers).insertSql (cells.map .text) = (c', .error e)) : σ.Full e
  others {c c' : C} {table : Text} {headers : List Text} (hfilling : Filling (planTable table headers) c c')
    (hclear : σ.Clear (σ.now c) table) {other : Text} {names : List Text} {rows : List (List Text)}
    (h : σ.Stores (σ.now c) other names rows) (hvisible : ¬ σ.Hidden (σ.now c') other) :
    σ.Stores (σ.now c') other names rows
  mapped {c c' : C} {sql : Text} (hsql : MappingStatement sql) {parameters : List Sql.Value} {n : Nat}
    (hexecute : Engine.execute c sql parameters = (c', .ok n)) (hclear : σ.Clear (σ.now c) Store.mappingTableName)
    {other : Text} (hother : ¬ Text.sameName other Store.mappingTableName) {names : List Text}
    {rows : List (List Text)} (h : σ.Stores (σ.now c) other names rows) : σ.Stores (σ.now c') other names rows
  keeps {c c' : C} {table : Text} {headers : List Text} (hword : table.all Identifier.isWordChar)
    (hfilling : Filling (planTable table headers) c c') (hclear : σ.Clear (σ.now c) table)
    {rows : Multiset (List Sql.Value)} (h : σ.Keeps (σ.now c) rows) : σ.Keeps (σ.now c') rows
  clear {c c' : C} {sql : Text} (hsql : LoadStatement sql) {parameters : List Sql.Value} {n : Nat}
    (hexecute : Engine.execute c sql parameters = (c', .ok n)) {name : Text} (h : σ.Clear (σ.now c) name) :
    σ.Clear (σ.now c') name

/-- What is under other names stays as it is, and only a temporary table that is created hides another one. -/
structure LeavesOthers : Prop where
  hidden {c c' : C} {sql : Text} (hsql : LoadStatement sql) {parameters : List Sql.Value} {n : Nat}
    (hexecute : Engine.execute c sql parameters = (c', .ok n)) {name : Text} (h : σ.Hidden (σ.now c) name) :
    σ.Hidden (σ.now c') name
  created_visible {c c' : C} {table : Text} {headers : List Text} (hword : table.all Identifier.isWordChar) {n : Nat}
    (h : Engine.execute c (planTable table headers).createSql [] = (c', .ok n)) {name : Text}
    (hhidden : σ.Hidden (σ.now c') name) : σ.Hidden (σ.now c) name
  inserted_visible {c c' : C} {table : Text} {headers : List Text} {parameters : List Sql.Value} {n : Nat}
    (h : Engine.execute c (planTable table headers).insertSql parameters = (c', .ok n)) {name : Text}
    (hhidden : σ.Hidden (σ.now c') name) : σ.Hidden (σ.now c) name
  mapped_visible {c c' : C} {sql : Text} (hsql : MappingStatement sql) {parameters : List Sql.Value} {n : Nat}
    (h : Engine.execute c sql parameters = (c', .ok n)) {name : Text} (hhidden : σ.Hidden (σ.now c') name) :
    σ.Hidden (σ.now c) name
  under {c c' : C} {table : Text} {headers : List Text} (hword : table.all Identifier.isWordChar)
    (hfilling : Filling (planTable table headers) c c') (hclear : σ.Clear (σ.now c) table) {name : Text}
    (hname : ¬ Text.sameName name table) : σ.under (σ.now c') name = σ.under (σ.now c) name
  mapped {c c' : C} {sql : Text} (hsql : MappingStatement sql) {parameters : List Sql.Value} {n : Nat}
    (hexecute : Engine.execute c sql parameters = (c', .ok n)) (hclear : σ.Clear (σ.now c) Store.mappingTableName)
    {name : Text} (hname : ¬ Text.sameName name Store.mappingTableName) :
    σ.under (σ.now c') name = σ.under (σ.now c) name

/-- A table is created under a word that no table has for its name, in any case.  Loads take no table away. -/
structure NamesTables : Prop where
  mapping {v : σ.Version} {rows : Multiset (List Sql.Value)} (h : σ.Keeps v rows) :
    Store.mappingTableName ∈ σ.names v
  free {c c' : C} {table : Text} {headers : List Text} (hword : table.all Identifier.isWordChar) {n : Nat}
    (h : Engine.execute c (planTable table headers).createSql [] = (c', .ok n)) :
    ∀ name ∈ σ.names (σ.now c), ¬ Text.sameName name table
  created {c c' : C} {table : Text} {headers : List Text} (hword : table.all Identifier.isWordChar) {n : Nat}
    (h : Engine.execute c (planTable table headers).createSql [] = (c', .ok n)) : table ∈ σ.names (σ.now c')
  kept {c c' : C} {sql : Text} (hsql : LoadStatement sql) {parameters : List Sql.Value} {n : Nat}
    (hexecute : Engine.execute c sql parameters = (c', .ok n)) {name : Text} (h : name ∈ σ.names (σ.now c)) :
    name ∈ σ.names (σ.now c')

/-- The main schema has a table of the name, in some spelling. -/
def Has (table : Text) (v : σ.Version) : Bool := (σ.names v).any (Text.sameName · table)

/-- A transaction goes back only to what was there, and a file keeps the tables that were committed. -/
structure SavesTables : Prop where
  executed {c c' : C} {sql : Text} {parameters : List Sql.Value} {answer : Except Failure Nat}
    (h : Engine.execute c sql parameters = (c', answer)) {v : σ.Version} (hv : v ∈ σ.saved c') :
    v = σ.now c ∨ v ∈ σ.saved c
  queried {c : C} {sql : Text} {parameters : List Sql.Value} {v : σ.Version}
    (hv : v ∈ σ.saved (Engine.query c sql parameters).1) : v = σ.now c ∨ v ∈ σ.saved c
  reopened {c c₁ c₂ : C} (hconnect : Engine.connect (some (Engine.content c)) = .ok c₁) {n : Nat}
    (hexecute : Engine.execute c₁ Store.mappingTableSql [] = (c₂, .ok n)) {name : Text}
    (h : name ∈ σ.names (σ.committed c)) : name ∈ σ.names (σ.now c₂)

/-- A text under which a table is created and rows can be put in names that table: no other one can be created under it
as long as the table is there.  Loads take no table away. -/
structure TakesNames : Prop where
  free {c c' : C} {table : Text} {headers : List Text} {n : Nat} {names : List Text}
    (h : Engine.execute c (planTable table headers).createSql [] = (c', .ok n))
    (hprepare : Engine.prepare c' (planTable table headers).insertSql = .ok names) : ¬ σ.Taken (σ.now c) table
  created {c c' : C} {table : Text} {headers : List Text} {n : Nat} {names : List Text}
    (h : Engine.execute c (planTable table headers).createSql [] = (c', .ok n))
    (hprepare : Engine.prepare c' (planTable table headers).insertSql = .ok names) : σ.Taken (σ.now c') table
  kept {c c' : C} {sql : Text} (hsql : LoadStatement sql) {parameters : List Sql.Value} {n : Nat}
    (hexecute : Engine.execute c sql parameters = (c', .ok n)) {name : Text} (h : σ.Taken (σ.now c) name) :
    σ.Taken (σ.now c') name

/-- What a load does to its table depends only on what is under the name, as long as there is room.  The queries of the
store answer the same if the same is under all names, but for the order of the rows of the table of header mappings. -/
structure ActsLocally : Prop where
  executed {c₁ c₁' c₂ c₂' : C} {table : Text} {headers : List Text} (h : σ.Alike table c₁ c₂)
    (hword : table.all Identifier.isWordChar) {sql : Text}
    (hsql : sql = (planTable table headers).createSql ∨ sql = (planTable table headers).insertSql)
    {parameters : List Sql.Value} {n₁ n₂ : Nat} (h₁ : Engine.execute c₁ sql parameters = (c₁', .ok n₁))
    (h₂ : Engine.execute c₂ sql parameters = (c₂', .ok n₂)) :
    σ.under (σ.now c₂') table = σ.under (σ.now c₁') table
  refused {c₁ c₁' c₂ c₂' : C} {table : Text} {headers : List Text} (h : σ.Alike table c₁ c₂)
    (hword : table.all Identifier.isWordChar) {sql : Text}
    (hsql : sql = (planTable table headers).createSql ∨ sql = (planTable table headers).insertSql)
    {parameters : List Sql.Value} {n₁ : Nat} {e : Failure} (h₁ : Engine.execute c₁ sql parameters = (c₁', .ok n₁))
    (h₂ : Engine.execute c₂ sql parameters = (c₂', .error e)) : σ.Full e
  prepared {c₁ c₂ : C} {table : Text} {headers : List Text} (h : σ.Alike table c₁ c₂)
    (hword : table.all Identifier.isWordChar) {names : List Text}
    (h₁ : Engine.prepare c₁ (planTable table headers).insertSql = .ok names) :
    ∃ names, Engine.prepare c₂ (planTable table headers).insertSql = .ok names
  spelled {v : σ.Version} {name name' : Text} (h : Text.sameName name name') : σ.under v name = σ.under v name'
  answered {c₁ c₂ : C} (hsettings : σ.settings c₂ = σ.settings c₁)
    (hunder : ∀ name, ¬ Text.sameName name Store.mappingTableName →
      σ.under (σ.now c₂) name = σ.under (σ.now c₁) name)
    {rows : Multiset (List Sql.Value)} (h₁ : σ.Keeps (σ.now c₁) rows) (h₂ : σ.Keeps (σ.now c₂) rows) {sql : Text}
    {parameters : List Sql.Value} (hsql : StoreQuery sql parameters) :
    Engine.prepare c₂ sql = Engine.prepare c₁ sql ∧
      (Engine.query c₂ sql parameters).2 = (Engine.query c₁ sql parameters).2

/-! ### Queries -/

/-- In an undamaged database the list of tables has the names of the main tables in ascending order, but for one name and
those that are like a pattern, and no two names are the same in any case. -/
structure ListsTables : Prop where
  listed {c : C} (h : Reachable σ.Sound c) : ∃ headers, ∃ listed : List Text, Engine.prepare c Store.tablesSql = .ok headers ∧
    (Engine.query c Store.tablesSql [.text Store.mappingTableName]).2 =
        ⟨listed.map fun name => [Sql.Value.text name], none⟩ ∧
      (listed.Pairwise fun a b => a < b ∨ a = b) ∧
      listed.Perm ((σ.names (σ.now c)).filter fun name =>
        name != Store.mappingTableName && !Sql.likeMatches "sqlite_%".toList name)
  distinct {c : C} (h : Reachable σ.Sound c) :
    (σ.names (σ.now c)).Pairwise fun a b => ¬ Text.sameName a b

/-- The description of a column of texts at a position. -/
def columnRow (position : Nat) (name : Text) : List Sql.Value :=
  [.integer position, .text name, .text "TEXT".toList, .integer 0, .null, .integer 0]

/-- The columns of a description. -/
def columnHeaders : List Text := ["cid", "name", "type", "notnull", "dflt_value", "pk"].map String.toList

/-- A table has columns with different names, and they are described under any spelling of the table's name, as long as
the query for that can be compiled. -/
structure DescribesTables : Prop where
  nonempty {v : σ.Version} {table : Text} {names : List Text} {rows : List (List Text)}
    (h : σ.Stores v table names rows) : names ≠ []
  distinct {v : σ.Version} {table : Text} {names : List Text} {rows : List (List Text)}
    (h : σ.Stores v table names rows) : names.Nodup
  described {c : C} {table : Text} {names : List Text} {rows : List (List Text)}
    (h : σ.Stores (σ.now c) table names rows) (hreads : σ.Reads (σ.settings c)) {headers : List Text}
    (hprepare : Engine.prepare c Store.tableInfoSql = .ok headers) {name : Text} (hname : Text.sameName name table) :
    headers = columnHeaders ∧ (Engine.query c Store.tableInfoSql [.text name]).2 = ⟨names.mapIdx columnRow, none⟩

/-- The rows of a table are read in the order in which they were put in. -/
structure ShowsTables : Prop where
  shown {c : C} {table : Text} {names : List Text} {rows : List (List Text)} (hword : table.all Identifier.isWordChar)
    (h : σ.Stores (σ.now c) table names rows) (hreads : σ.Reads (σ.settings c)) :
    Engine.prepare c (selectAllSql table) = .ok names ∧
      (Engine.query c (selectAllSql table) []).2 = ⟨rows.map fun cells => cells.map Sql.Value.text, none⟩

/-- A new database is empty, and works by the usual settings. -/
structure BeginsEmpty : Prop where
  settings {c : C} (h : Engine.connect none = .ok c) : σ.Writes (σ.settings c) ∧ σ.Reads (σ.settings c)
  opened {c c' : C} (h : Engine.connect none = .ok c) {n : Nat}
    (hexecute : Engine.execute c Store.mappingTableSql [] = (c', .ok n)) :
    σ.settings c' = σ.settings c ∧ ∀ name, σ.Clear (σ.now c') name ∧ ¬ σ.Hidden (σ.now c') name

end Semantics

end SheetQuery
