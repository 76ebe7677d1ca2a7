import LibZbxPgsql.ClauseTokens
import LibZbxPgsql.SqlEvaluation

set_option autoImplicit false

namespace LibZbxPgsql.ActivityView
open CStrings AgentModel BackendKeys Sessions KeyPlans ActivityClauses SqlTokens ClauseTokens
open SqlQueries SqlEvaluation

/-- `datid` is `NULL` for a process that serves no client. -/
structure Backend (α : Type) where
  pid : ℕ
  datid : Option ℕ
  datname : Option Name
  usesysid : Option ℕ
  usename : Option Name
  client_addr : Option α
  client_hostname : Option CStr
  waiting : Option Bool

section View
variable {α : Type} (version : ℤ)

/-- The column of the process id is named after the version. `client_hostname`, which came
    with 9.1, and `waiting`, which went with 9.6, are taken to be there at every version. -/
def columns : Columns α (Backend α) :=
  [(pidColumn version, .integer, fun r => some (.number r.pid)),
   ("datid".toList, .oid, fun r => r.datid.map fun n : ℕ => .number n),
   ("datname".toList, .name, fun r => r.datname.map .text),
   ("usesysid".toList, .oid, fun r => r.usesysid.map fun n : ℕ => .number n),
   ("usename".toList, .name, fun r => r.usename.map .text),
   ("client_addr".toList, .inet, fun r => r.client_addr.map .address),
   ("client_hostname".toList, .text, fun r => r.client_hostname.map .text),
   ("waiting".toList, .boolean, fun r => r.waiting.map .bool)]

def pg_stat_activity (rows : List (Backend α)) : Table α := tableOf (columns version) rows

theorem lookup_pid :
    (columns (α := α) version).lookup (pidColumn version) =
      some (.integer, fun r => some (.number r.pid)) := by
  rw [columns, List.lookup_cons_self]

/-- The other columns do not bear the process id's name. -/
theorem lookup_other {c : Name} {t : SqlType} {f : Backend α → Value α}
    (hp : c ≠ "procpid".toList) (hp' : c ≠ "pid".toList)
    (hc : (columns (α := α) version).tail.lookup c = some (t, f)) :
    (columns version).lookup c = some (t, f) := by
  have other : c ≠ pidColumn version := by
    rw [pidColumn]
    split
    · exact hp
    · exact hp'
  rw [columns, List.lookup_cons, beq_false_of_ne other]
  exact hc

theorem lookup_datid :
    (columns (α := α) version).lookup "datid".toList =
      some (.oid, fun r => r.datid.map fun n : ℕ => .number n) :=
  lookup_other version (by decide) (by decide) rfl

theorem lookup_datname :
    (columns (α := α) version).lookup "datname".toList =
      some (.name, fun r => r.datname.map .text) :=
  lookup_other version (by decide) (by decide) rfl

theorem lookup_usesysid :
    (columns (α := α) version).lookup "usesysid".toList =
      some (.oid, fun r => r.usesysid.map fun n : ℕ => .number n) :=
  lookup_other version (by decide) (by decide) rfl

theorem lookup_usename :
    (columns (α := α) version).lookup "usename".toList =
      some (.name, fun r => r.usename.map .text) :=
  lookup_other version (by decide) (by decide) rfl

theorem lookup_client_addr :
    (columns (α := α) version).lookup "client_addr".toList =
      some (.inet, fun r => r.client_addr.map .address) :=
  lookup_other version (by decide) (by decide) rfl

theorem lookup_client_hostname :
    (columns (α := α) version).lookup "client_hostname".toList =
      some (.text, fun r => r.client_hostname.map .text) :=
  lookup_other version (by decide) (by decide) rfl

theorem lookup_waiting :
    (columns (α := α) version).lookup "waiting".toList =
      some (.boolean, fun r => r.waiting.map .bool) :=
  lookup_other version (by decide) (by decide) rfl

structure ShowsBackends {R : Type} (columns : Columns α R) (backend : R → Backend α) :
    Prop where
  pid : columns.lookup (pidColumn version) =
    some (.integer, fun r => some (.number (backend r).pid))
  datid : columns.lookup "datid".toList =
    some (.oid, fun r => (backend r).datid.map fun n : ℕ => .number n)
  datname : columns.lookup "datname".toList = some (.name, fun r => (backend r).datname.map .text)
  usesysid : columns.lookup "usesysid".toList =
    some (.oid, fun r => (backend r).usesysid.map fun n : ℕ => .number n)
  usename : columns.lookup "usename".toList = some (.name, fun r => (backend r).usename.map .text)
  client_addr : columns.lookup "client_addr".toList =
    some (.inet, fun r => (backend r).client_addr.map .address)
  client_hostname : columns.lookup "client_hostname".toList =
    some (.text, fun r => (backend r).client_hostname.map .text)
  waiting : columns.lookup "waiting".toList =
    some (.boolean, fun r => (backend r).waiting.map .bool)

theorem columns_show : ShowsBackends (α := α) version (columns version) id where
  pid := lookup_pid version
  datid := lookup_datid version
  datname := lookup_datname version
  usesysid := lookup_usesysid version
  usename := lookup_usename version
  client_addr := lookup_client_addr version
  client_hostname := lookup_client_hostname version
  waiting := lookup_waiting version

end View

end LibZbxPgsql.ActivityView
