import SheetQuery.Proofs.Disk
import SheetQuery.Proofs.Session.Query

/-!
# How sessions begin and what commands change

* `Store.openAt_eq_ok`: a store is opened on what is in its file, or on nothing.
* `Session.start_eq_ok`, `Workspace.openAt_eq_ok`: a session begins on a store with the mappings that it keeps.
* `Workspace.exportTo_state`, `Workspace.execute_state`: a command changes one file, or runs one statement.
-/

namespace SheetQuery

variable {C : Type}

namespace Workspace

theorem writeListing_disk (disk : Disk) (path : Text) (listing : Listing) :
    (writeListing disk path listing).1 = disk ∨ ∃ content, disk.writable path = .ok () ∧
      (writeListing disk path listing).1 = disk.put path (.file content) := by
  unfold writeListing
  dsimp only
  split
  · exact .inl rfl
  · rename_i disk' hcreate
    obtain ⟨_, hwritable, hput⟩ := bind_eq_ok.1 hcreate
    have hdisk := pure_eq_ok.1 hput
    refine .inr ⟨.bytes (Utf8.encode (Delimited.write listing.headers listing.rows).1), hwritable, ?_⟩
    rw [hdisk]
    split <;> rfl

/-- Writing the last result changes one file at most. -/
theorem exportTo_state (w : Workspace C) (path : Text) :
    (w.exportTo path).state = w ∨ ∃ content, w.disk.writable path = .ok () ∧
      (w.exportTo path).state = { w with disk := w.disk.put path (.file content) } := by
  unfold exportTo
  split
  · exact .inl rfl
  · rename_i listing hlisting
    have hdisk := writeListing_disk w.disk path listing
    split
    · rename_i disk failure hwrite
      rw [hwrite] at hdisk
      rcases hdisk with rfl | ⟨content, hwritable, rfl⟩
      · exact .inl rfl
      · exact .inr ⟨content, hwritable, rfl⟩
    · rename_i disk hwrite
      rw [hwrite] at hdisk
      rcases hdisk with rfl | ⟨content, hwritable, rfl⟩
      · exact .inl rfl
      · exact .inr ⟨content, hwritable, rfl⟩

end Workspace

variable [Engine C]

namespace Store

/-- What a store at a location is opened on. -/
def contentAt (disk : Disk) (location : Text) : Option Content :=
  if isFile location then (disk.read location).toOption else none

theorem connect_eq_ok {location : Text} {content : Option Content} {s : Store C}
    (h : connect location content = .ok s) :
    ∃ c c' n, Engine.connect content = .ok c ∧ Engine.execute c mappingTableSql [] = (c', .ok n) ∧
      s = ⟨location, c'⟩ := by
  unfold connect at h
  dsimp only at h
  split at h
  · rename_i db hconnected
    obtain ⟨c, hconnect, hexecuted⟩ := bind_eq_ok.1 hconnected
    split at hexecuted
    · cases hexecuted
    · rename_i c' n hexecute
      obtain rfl := pure_eq_ok.1 hexecuted
      exact ⟨c, _, n, hconnect, hexecute, (Except.ok.inj h).symm⟩
  · cases h

theorem connect_of_execute {location : Text} {content : Option Content} {c c' : C} {n : Nat}
    (hconnect : Engine.connect content = .ok c) (hexecute : Engine.execute c mappingTableSql [] = (c', .ok n)) :
    connect location content = .ok ⟨location, c'⟩ := by
  unfold connect
  rw [hconnect]
  simp only [bind, Except.bind, hexecute]
  rfl

/-- A store that is kept has its file as soon as it is opened. -/
theorem openAt_eq_ok {disk disk' : Disk} {location : Text} {s : Store C}
    (h : openAt disk location = .ok (s, disk')) :
    connect location (contentAt disk location) = .ok s ∧
      (isFile location → disk'.lookup location = .ok (.file (Engine.content s.database))) := by
  unfold openAt contentAt at *
  split at h
  · rename_i hfile
    rw [if_pos hfile]
    split at h
    · cases h
    · rename_i hwritable
      obtain ⟨s', hconnect, hopened⟩ := bind_eq_ok.1 h
      obtain ⟨rfl, rfl⟩ := Prod.mk.inj (pure_eq_ok.1 hopened)
      exact ⟨hconnect, fun _ => Disk.lookup_put hwritable⟩
  · rename_i hfile
    rw [if_neg hfile]
    obtain ⟨s', hconnect, hopened⟩ := map_eq_ok h
    obtain ⟨rfl, -⟩ := Prod.mk.inj hopened
    exact ⟨hconnect, fun hfile' => absurd hfile' hfile⟩

theorem openAt_of_connect {disk : Disk} {location : Text} {s : Store C}
    (hwritable : isFile location → disk.writable location = .ok ())
    (hconnect : connect location (contentAt disk location) = .ok s) : ∃ disk', openAt disk location = .ok (s, disk') := by
  unfold openAt contentAt at *
  split
  · rename_i hfile
    rw [if_pos hfile] at hconnect
    rw [hwritable hfile, hconnect]
    exact ⟨_, rfl⟩
  · rename_i hfile
    rw [if_neg hfile] at hconnect
    rw [hconnect]
    exact ⟨_, rfl⟩

theorem connect_reachable {p : Option Content → Prop} {location : Text} {content : Option Content} {s : Store C}
    (h : connect location content = .ok s) (hcontent : p content) : Reachable p s.database := by
  obtain ⟨c, c', n, hconnect, hexecute, rfl⟩ := connect_eq_ok h
  exact (Reachable.connect hcontent hconnect).execute hexecute

end Store

/-- A session starts with the mappings that its store keeps, if they can be read. -/
theorem Session.start_of_stored {store : Store C} {stored : List Mapping} (h : store.storedMappings = .ok stored)
    (options : LoadOptions) :
    ∃ notes, start store options = .ok ⟨⟨store, HeaderMappings.empty.extend stored, options, none⟩, (), notes⟩ := by
  unfold start
  rw [h]
  dsimp only
  split
  · exact ⟨_, rfl⟩
  · exact ⟨_, rfl⟩

theorem Session.start_eq_ok {store : Store C} {options : LoadOptions} {started : Step (Session C) Unit}
    (h : start store options = .ok started) :
    ∃ stored notes, store.storedMappings = .ok stored ∧
      started = ⟨⟨store, HeaderMappings.empty.extend stored, options, none⟩, (), notes⟩ := by
  cases hstored : store.storedMappings with
  | error e =>
    unfold start at h
    rw [hstored] at h
    cases h
  | ok stored =>
    obtain ⟨notes, hstart⟩ := start_of_stored hstored options
    exact ⟨stored, notes, rfl, Except.ok.inj (h.symm.trans hstart)⟩

namespace Workspace

theorem openAt_eq_ok {disk : Disk} {location : Text} {options : LoadOptions} {started : Step (Workspace C) Unit}
    (h : openAt disk location options = .ok started) :
    ∃ store disk' session, Store.openAt disk location = .ok (store, disk') ∧
      Session.start store options = .ok session ∧ started = session.onState fun s => ⟨s, disk'⟩ := by
  obtain ⟨⟨store, disk'⟩, hstore, h⟩ := bind_eq_ok.1 h
  obtain ⟨session, hsession, h⟩ := bind_eq_ok.1 h
  exact ⟨store, disk', session, hstore, hsession, (pure_eq_ok.1 h).symm⟩

theorem openAt_of_start {disk disk' : Disk} {location : Text} {options : LoadOptions} {store : Store C}
    {session : Step (Session C) Unit} (hstore : Store.openAt disk location = .ok (store, disk'))
    (hsession : Session.start store options = .ok session) :
    openAt disk location options = .ok (session.onState fun s => ⟨s, disk'⟩) :=
  bind_eq_ok.2 ⟨_, hstore, bind_eq_ok.2 ⟨_, hsession, rfl⟩⟩

/-- A session that is opened has the store of its location, with the mappings that the store keeps and no result. -/
theorem openAt_session {disk : Disk} {location : Text} {options : LoadOptions} {started : Step (Workspace C) Unit}
    (h : openAt disk location options = .ok started) :
    Store.connect location (Store.contentAt disk location) = .ok started.state.session.store ∧
      started.state.session.store.location = location ∧
      (Store.isFile location →
        started.state.disk.lookup location = .ok (.file (Engine.content started.state.session.store.database))) ∧
      ∃ stored, started.state.session.store.storedMappings = .ok stored ∧
        started.state.session.mappings = HeaderMappings.empty.extend stored ∧
        started.state.session.lastResult = none := by
  obtain ⟨store, disk', session, hstore, hsession, rfl⟩ := openAt_eq_ok h
  obtain ⟨hconnect, hfile⟩ := Store.openAt_eq_ok hstore
  obtain ⟨stored, notes, hstored, rfl⟩ := Session.start_eq_ok hsession
  obtain ⟨c, c', n, -, -, rfl⟩ := Store.connect_eq_ok hconnect
  exact ⟨hconnect, rfl, hfile, stored, hstored, rfl, rfl⟩

/-! ### Commands -/

/-- A command runs a statement, or it writes a file, or it changes nothing. -/
theorem execute_state (w : Workspace C) (command : Command) :
    (∃ statement, command = .sql statement ∧
      (w.execute command).state = { w with session := (w.session.query statement).state }) ∨
    (∃ path content, command = .exportTo path ∧ w.disk.writable path = .ok () ∧
      (w.execute command).state = { w with disk := w.disk.put path (.file content) }) ∨
    (w.execute command).state = w := by
  cases command with
  | sql statement => exact .inl ⟨statement, rfl, rfl⟩
  | exportTo path =>
    rcases w.exportTo_state path with h | ⟨content, hwritable, h⟩
    · exact .inr (.inr h)
    · exact .inr (.inl ⟨path, content, rfl, hwritable, h⟩)
  | exit | help | empty | tables | schema table | mappings => exact .inr (.inr rfl)

end Workspace

end SheetQuery
