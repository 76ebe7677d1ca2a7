import LibZbxPgsql.Conninfo
import LibZbxPgsql.Connections

set_option autoImplicit false

namespace LibZbxPgsql.ConnStrings
open CStrings AgentModel Connections Conninfo

/-- The settings a caller's string stands for: none where it is null or empty, else those
    it parses to, where it ends in a complete value. -/
def Gives (connstring : Option CStr) (settings : List Conninfo.Setting) : Prop :=
  (strisnull connstring = true ∧ settings = []) ∨
    ∃ text, connstring = some text ∧ parse isspace text = some settings ∧ Complete isspace text

theorem build_connstring_null {connstring : Option CStr} (h : strisnull connstring = true)
    {db : CStr} (given : db ≠ []) :
    build_connstring connstring (some db) = "dbname".toList ++ '=' :: db := by
  obtain ⟨c, db, rfl⟩ := List.exists_cons_of_ne_nil given
  simp [build_connstring, h, strcat2, DEFAULT_CONN_STRING]

theorem build_connstring_given {text : CStr} (h : text ≠ []) {db : CStr} (given : db ≠ []) :
    build_connstring (some text) (some db) = text ++ ' ' :: ("dbname".toList ++ '=' :: db) := by
  obtain ⟨c, db, rfl⟩ := List.exists_cons_of_ne_nil given
  obtain ⟨d, text, rfl⟩ := List.exists_cons_of_ne_nil h
  simp [build_connstring, strcat2]

theorem dbname_keyword : ∀ c ∈ "dbname".toList, isspace c = false ∧ c ≠ '=' := by
  simp [isspace]

/-- The connection string has the settings given and the database, and no others,
    exactly where the name of the database has no blank and no backslash and does not
    start with a quote. -/
theorem build_connstring_names_database_iff {connstring : Option CStr}
    {settings : List Conninfo.Setting} (gives : Gives connstring settings) {db : CStr}
    (given : db ≠ []) :
    parse isspace (build_connstring connstring (some db)) =
        some (settings ++ [⟨"dbname".toList, db⟩]) ↔
      Plain isspace db := by
  have assigned := parse_assignment_iff isspace (k := "dbname".toList) (by decide) given
    dbname_keyword
  rw [← assigned]
  by_cases null : strisnull connstring = true
  · rw [build_connstring_null null given]
    obtain ⟨-, rfl⟩ | ⟨text, rfl, parses, -⟩ := gives
    · rw [List.nil_append]
    · -- a string that is empty has no settings
      have empty : text = [] := by simpa using null
      subst empty
      cases parses
      exact Iff.rfl
  · obtain ⟨h, -⟩ | ⟨text, rfl, parses, complete⟩ := gives
    · exact absurd h null
    · have nonempty : text ≠ [] := by
        rintro rfl
        exact null rfl
      rw [build_connstring_given nonempty given,
        parse_append isspace parses complete (by decide)]
      constructor
      · intro h
        obtain ⟨l, hl, same⟩ := Option.map_eq_some_iff.mp h
        rw [hl, List.append_cancel_left same]
      · intro h
        rw [h]
        rfl

/-- A string with a quoted value, and a database with a plain name. -/
theorem build_connstring_names_database_quoted :
    parse isspace (build_connstring (some "host=db1 password='a b'".toList) (some "sales".toList)) =
        some ([⟨"host".toList, "db1".toList⟩, ⟨"password".toList, "a b".toList⟩] ++
          [⟨"dbname".toList, "sales".toList⟩]) ↔
      Plain isspace "sales".toList :=
  build_connstring_names_database_iff
    (.inr ⟨_, rfl, rfl, _, .between, rfl, .inl rfl⟩) (by decide)

/-- A name with a blank in it does not parse. -/
theorem blank_in_name_is_refused :
    Gives none [] ∧
      parse isspace (build_connstring none (some "my db".toList)) ≠
        some [⟨"dbname".toList, "my db".toList⟩] :=
  ⟨.inl ⟨rfl, rfl⟩, by decide⟩

/-- A name can carry a setting of its own. -/
example : parse isspace (build_connstring none (some "a host=b".toList)) =
    some [⟨"dbname".toList, "a".toList⟩, ⟨"host".toList, "b".toList⟩] := by decide

end LibZbxPgsql.ConnStrings
