import SheetQuery.Command
import SheetQuery.Proofs.Text.Joining
import SheetQuery.Proofs.Text.Runs

/-!
# How a line is read

A line is read by the number of its words and by the first of them in lower case.  What is no directive is a statement,
and it loses nothing but the blanks at its ends.

* `HasWords`: the blocks of characters in a line that are not blank.
* `ReadAs`: what a line with these words is read as; `parse_eq_iff` says that it is read as nothing else.
* `Recased`: a line with its first word in another letter case.
* `parse_exact`: every line is read by its words, whatever blanks surround it, and a statement is read as itself.
-/

namespace SheetQuery.Command

/-- The words of a line are the blocks of it that have no blank, with nothing but blanks around them. -/
def HasWords (line : Text) (words : List Text) : Prop := Text.Separated (fun c => !Text.isBlank c) line words

def keyword? (words : List Text) : Option String := words.head?.map fun w => String.ofList (Text.lower w)

/-- A line with these words is read as this command or fault. -/
def ReadAs (line : Text) (words : List Text) : Except CommandFault Command → Prop
  | .ok empty => words.length = 0
  | .ok exit => words.length = 1 ∧ ∃ k ∈ ["exit", "quit", ".exit", ".quit"], keyword? words = some k
  | .ok help => keyword? words = some ".help"
  | .ok tables => keyword? words = some ".tables"
  | .ok mappings => keyword? words = some ".mappings"
  | .ok (schema table) => keyword? words = some ".schema" ∧ words.tail = [table]
  | .ok (exportTo path) => keyword? words = some "export" ∧ words.tail = [path]
  | .error .schemaUsage => keyword? words = some ".schema" ∧ words.length ≠ 2
  | .error .exportUsage => keyword? words = some "export" ∧ words.length ≠ 2
  | .ok (sql statement) => Text.Trimmed line statement ∧ words.length ≠ 0 ∧
      (words.length = 1 → ∀ k ∈ ["exit", "quit", ".exit", ".quit"], keyword? words ≠ some k) ∧
      ∀ k ∈ [".help", ".tables", ".mappings", ".schema", "export"], keyword? words ≠ some k

variable {line : Text} {words : List Text}

theorem words_eq (h : HasWords line words) : Text.words line = words := Text.runs_eq_iff.2 h

theorem parse_nil (h : HasWords line []) : parse line = .ok empty := by
  rw [parse, words_eq h]

theorem parse_cons {w : Text} {rest : List Text} (h : HasWords line (w :: rest)) :
    parse line = ofWords (Text.trim line) (String.ofList (Text.lower w)) rest := by
  rw [parse, words_eq h]

private theorem exits_iff {k : String} {w : Text} {rest : List Text} :
    (exitWords.contains k && rest.isEmpty) = true ↔ (w :: rest).length = 1 ∧ k ∈ exitWords := by
  rw [Bool.and_eq_true, List.contains_iff_mem, List.isEmpty_iff, and_comm, ← List.length_eq_zero_iff]
  simp

private theorem length_ne_two {w : Text} {rest : List Text} (h : ∀ name, rest = [name] → False) :
    (w :: rest).length ≠ 2 := by
  intro hlength
  obtain ⟨name, hrest⟩ := List.length_eq_one_iff.1 (Nat.succ_inj.1 hlength)
  exact h name hrest

private theorem readAs_ofWords (line w : Text) (rest : List Text) :
    ReadAs line (w :: rest) (ofWords (Text.trim line) (String.ofList (Text.lower w)) rest) := by
  have hkeyword : keyword? (w :: rest) = some (String.ofList (Text.lower w)) := rfl
  generalize String.ofList (Text.lower w) = k at hkeyword
  unfold ofWords
  split_ifs with hexit hhelp htables hmappings hschema hexport
  · obtain ⟨hone, hk⟩ := exits_iff.1 hexit
    exact ⟨hone, k, hk, hkeyword⟩
  · rwa [hhelp] at hkeyword
  · rwa [htables] at hkeyword
  · rwa [hmappings] at hkeyword
  · rw [hschema] at hkeyword
    split
    · exact ⟨hkeyword, rfl⟩
    · rename_i hrest
      exact ⟨hkeyword, length_ne_two hrest⟩
  · rw [hexport] at hkeyword
    split
    · exact ⟨hkeyword, rfl⟩
    · rename_i hrest
      exact ⟨hkeyword, length_ne_two hrest⟩
  · refine ⟨Text.trim_eq_iff.1 rfl, Nat.succ_ne_zero _, fun hone k' hk' hkey => ?_, ?_⟩
    · obtain rfl := Option.some.inj (hkeyword.symm.trans hkey)
      exact hexit (exits_iff.2 ⟨hone, hk'⟩)
    · simp [hkeyword, hhelp, htables, hmappings, hschema, hexport]

private theorem ofWords_of_readAs {w : Text} {rest : List Text} {result : Except CommandFault Command}
    (h : ReadAs line (w :: rest) result) :
    ofWords (Text.trim line) (String.ofList (Text.lower w)) rest = result := by
  have hkeyword : ∀ {k}, keyword? (w :: rest) = some k → String.ofList (Text.lower w) = k := Option.some.inj
  cases result with
  | error fault =>
    cases fault with
    | schemaUsage | exportUsage =>
      obtain ⟨hkey, hlength⟩ := h
      rw [hkeyword hkey]
      match rest with
      | [] | _ :: _ :: _ => rfl
      | [_] => exact absurd rfl hlength
  | ok command =>
    cases command with
    | empty => exact absurd h (Nat.succ_ne_zero _)
    | exit =>
      obtain ⟨hone, k, hk, hkey⟩ := h
      rw [hkeyword hkey]
      exact if_pos (exits_iff.2 ⟨hone, hk⟩)
    | help | tables | mappings => rw [hkeyword h]; rfl
    | schema table | exportTo path =>
      obtain ⟨hkey, hrest⟩ := h
      obtain rfl : rest = [_] := hrest
      rw [hkeyword hkey]
      rfl
    | sql statement =>
      obtain ⟨htrim, -, hexit, hothers⟩ := h
      -- no branch in front of the last one is taken
      have hstays : ¬ (exitWords.contains (String.ofList (Text.lower w)) && rest.isEmpty) := by
        intro hexits
        obtain ⟨hone, hk⟩ := exits_iff.1 hexits
        exact hexit hone _ hk rfl
      have hne : ∀ k ∈ [".help", ".tables", ".mappings", ".schema", "export"], String.ofList (Text.lower w) ≠ k :=
        fun k hk hkey => hothers k hk (congrArg some hkey)
      simp only [List.forall_mem_cons] at hne
      obtain ⟨hhelp, htables, hmappings, hschema, hexport, -⟩ := hne
      unfold ofWords
      rw [if_neg hstays, if_neg hhelp, if_neg htables, if_neg hmappings, if_neg hschema, if_neg hexport,
        Text.trim_eq_iff.2 htrim]

/-- A line is read as its words say, and as nothing else. -/
theorem parse_eq_iff (h : HasWords line words) {result : Except CommandFault Command} :
    parse line = result ↔ ReadAs line words result := by
  cases words with
  | nil =>
    rw [parse_nil h]
    constructor
    · rintro rfl
      exact List.length_nil
    · intro hread
      match result, hread with
      | .ok empty, _ => rfl
  | cons w rest =>
    rw [parse_cons h]
    constructor
    · rintro rfl
      exact readAs_ofWords line w rest
    · exact ofWords_of_readAs

-- an exit word is no directive if more stands behind it
example : parse " Quit now ".toList = .ok (sql "Quit now".toList) := by decide

/-! ### Lines that are read alike -/

/-- Blanks around a line make no difference. -/
theorem parse_surrounded {front back : Text} (hfront : ∀ c ∈ front, Text.isBlank c) (hback : ∀ c ∈ back, Text.isBlank c) :
    parse (front ++ line ++ back) = parse line := by
  have htrim : Text.trim (front ++ line ++ back) = Text.trim line :=
    Text.trim_eq_iff.2 ((Text.trim_eq_iff.1 rfl).surrounded hfront hback)
  have hwords : Text.words (front ++ line ++ back) = Text.words line := by
    have hfront' : ∀ c ∈ front, (!Text.isBlank c) = false := by simpa using hfront
    have hback' : ∀ c ∈ back, (!Text.isBlank c) = false := by simpa using hback
    exact (((Text.separated_runs _ line).append_left hfront').append_right hback').runs_eq
  rw [parse, parse, hwords, htrim]

/-- The text of a statement is read as itself. -/
theorem parse_statement {statement : Text} (h : parse line = .ok (sql statement)) :
    parse statement = .ok (sql statement) := by
  obtain ⟨htrim, -⟩ := (parse_eq_iff (Text.separated_runs _ line)).1 h
  obtain ⟨front, back, rfl, hfront, hback⟩ := htrim.cut
  rwa [parse_surrounded hfront hback] at h

/-- The lines differ in the letter case of their first word only. -/
def Recased (line other : Text) : Prop :=
  ∃ front w v behind, line = front ++ w ++ behind ∧ other = front ++ v ++ behind ∧ Text.lower v = Text.lower w ∧ w ≠ [] ∧
    (∀ c ∈ front, Text.isBlank c) ∧ (∀ c ∈ w, Text.isBlank c = false) ∧ ∀ c ∈ behind.head?, Text.isBlank c

theorem isBlank_of_isAlpha {c : Char} (h : c.isAlpha) : Text.isBlank c = false := by
  have hbounds : (65 ≤ c.toNat ∧ c.toNat ≤ 90) ∨ (97 ≤ c.toNat ∧ c.toNat ≤ 122) := by
    rcases Bool.or_eq_true_iff.1 h with hupper | hlower
    · exact .inl (of_decide_eq_true hupper)
    · obtain ⟨hfirst, hlast⟩ := Bool.and_eq_true_iff.1 hlower
      exact .inr ⟨of_decide_eq_true hfirst, of_decide_eq_true hlast⟩
  simp only [Text.isBlank, Text.inRanges, Text.blankRanges, List.any_cons, List.any_nil, Bool.or_false,
    Bool.or_eq_false_iff, Bool.and_eq_false_imp, decide_eq_true_eq, decide_eq_false_iff_not, Nat.not_le]
  omega

theorem isBlank_toLower (c : Char) : Text.isBlank c.toLower = Text.isBlank c := by
  rcases Text.toLower_cases c with hsame | ⟨halpha, halpha'⟩
  · rw [hsame]
  · rw [isBlank_of_isAlpha halpha, isBlank_of_isAlpha halpha']

private theorem readAs_recased {w v : Text} {rest : List Text} {result : Except CommandFault Command}
    (h : ReadAs line (w :: rest) result) (hlower : Text.lower v = Text.lower w)
    (hdirective : ∀ statement, result ≠ .ok (sql statement)) (other : Text) : ReadAs other (v :: rest) result := by
  -- only a statement is made of more than the first word in lower case and the words behind it
  have hkeyword : keyword? (v :: rest) = keyword? (w :: rest) := by simp [keyword?, hlower]
  cases result with
  | error fault => cases fault <;> exact ⟨hkeyword.trans h.1, h.2⟩
  | ok command =>
    cases command with
    | empty => exact h
    | exit =>
      obtain ⟨hone, k, hk, hkey⟩ := h
      exact ⟨hone, k, hk, hkeyword.trans hkey⟩
    | help | tables | mappings => exact hkeyword.trans h
    | schema table | exportTo path => exact ⟨hkeyword.trans h.1, h.2⟩
    | sql statement => exact absurd rfl (hdirective statement)

/-- The letter case of the first word makes no difference to a directive. -/
theorem parse_recased {other : Text} (h : Recased line other) (hdirective : ∀ statement, parse line ≠ .ok (sql statement)) :
    parse other = parse line := by
  obtain ⟨front, w, v, behind, rfl, rfl, hlower, hne, hfront, hw, hbehind⟩ := h
  have hvne : v ≠ [] := by
    rintro rfl
    exact hne (List.map_eq_nil_iff.1 hlower.symm)
  have hall : v.all (fun c => !Text.isBlank c) = w.all fun c => !Text.isBlank c :=
    Text.all_of_lower (fun c => by rw [isBlank_toLower]) hlower
  have hwords : ∀ u : Text, u ≠ [] → u.all (fun c => !Text.isBlank c) →
      HasWords (front ++ u ++ behind) (u :: Text.words behind) := by
    intro u hu hblanks
    exact .cons (by simpa using hfront) hu (List.all_eq_true.1 hblanks) (by simpa using hbehind) (Text.separated_runs _ behind)
  have hline := hwords w hne (by simpa using hw)
  have hother := hwords v hvne (by rw [hall]; simpa using hw)
  have hread := (parse_eq_iff hline).1 rfl
  exact (parse_eq_iff hother).2 (readAs_recased hread hlower hdirective _)

/-- Every line is read by its words, and as one thing.  Blanks around it make no difference, and neither does the letter
case of the word that makes it a directive; a statement is read as itself again. -/
theorem parse_exact (line : Text) :
    ∃ words, (∀ ws, HasWords line ws ↔ ws = words) ∧ (∀ result, parse line = result ↔ ReadAs line words result) ∧
      (∀ front back, (∀ c ∈ front, Text.isBlank c) → (∀ c ∈ back, Text.isBlank c) →
        parse (front ++ line ++ back) = parse line) ∧
      (∀ other, Recased line other → (∀ statement, parse line ≠ .ok (sql statement)) → parse other = parse line) ∧
      ∀ statement, parse line = .ok (sql statement) → parse statement = .ok (sql statement) := by
  have hwords : HasWords line (Text.words line) := Text.separated_runs _ line
  exact ⟨Text.words line, fun ws => ⟨fun h => (words_eq h).symm, fun h => h ▸ hwords⟩, fun result => parse_eq_iff hwords,
    fun front back => parse_surrounded, fun other => parse_recased, fun statement => parse_statement⟩

end SheetQuery.Command
