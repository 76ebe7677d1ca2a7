import LibZbxPgsql.AgentModel

set_option autoImplicit false

/-! The calls open and close nested containers. The buffer holds a complete document at every
moment, that of the containers as if all were closed now. -/
namespace LibZbxPgsql.JsonBuilder
open CStrings AgentModel

/-- A container not closed yet: its name in the enclosing object, if it has one, and
    what it holds so far. -/
structure Frame where
  name : CStr
  body : Json

structure zbx_json where
  id : ℕ
  frames : List Frame

def attach (name : CStr) (child : Json) : Json → Json
  | .object members => .object (members ++ [(name, child)])
  | .array elements => .array (elements ++ [child])
  | .string s => .string s

def zbx_json_addarray (j : zbx_json) (name : CStr) : zbx_json :=
  { j with frames := ⟨name, .array []⟩ :: j.frames }

def zbx_json_addobject (j : zbx_json) : zbx_json :=
  { j with frames := ⟨[], .object []⟩ :: j.frames }

def zbx_json_addstring (j : zbx_json) (name value : CStr) : zbx_json :=
  match j.frames with
  | [] => j
  | f :: fs => { j with frames := { f with body := attach name (.string value) f.body } :: fs }

def closeFrames : List Frame → List Frame
  | f :: g :: fs => { g with body := attach f.name f.body g.body } :: fs
  | fs => fs

def zbx_json_close (j : zbx_json) : zbx_json := { j with frames := closeFrames j.frames }

def closeAll (inner : Frame) : List Frame → Json
  | [] => inner.body
  | f :: fs => closeAll { f with body := attach inner.name inner.body f.body } fs

def buffer (j : zbx_json) : Json :=
  match j.frames with
  | [] => .object []
  | f :: fs => closeAll f fs

section Calls
variable {S : Server}

def zbx_json_init : Agent S zbx_json := do
  let id ← acquire .zbx_json_init
  return ⟨id, [⟨[], .object []⟩]⟩

def zbx_json_free (j : zbx_json) : Agent S Unit := emit (.zbx_json_free j.id)

end Calls

end LibZbxPgsql.JsonBuilder
