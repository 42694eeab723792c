/-
  ClusterBoot.RoleDocument
  ────────────────────────────────
  **THE CONFIGURATION OF ONE ROLE IN A CLUSTER.**

  A role document configures servers, the initialising server, or agents.
  Four keys are understood (`token`, `server`, `cni`, `tls-san`); every other
  key is an option that is passed on.  `ofMapping` reads the entries of a
  mapping in order and reports the first that is wrong; `toMapping` writes a
  document with all its keys in ascending order.  The first is a left inverse
  of the second.
-/
import ClusterBoot.Options
import ClusterBoot.Setting
import ClusterBoot.Yaml.Emit
import ClusterBoot.Yaml.Stream

namespace ClusterBoot

open Yaml (Value Entry)

/-! ## §1. The keys that are understood. -/

/-- The key of the secret that nodes join with. -/
def tokenKey : String := "token"

/-- The key of the address that nodes join at. -/
def serverKey : String := "server"

/-- The key of the network plugins. -/
def cniKey : String := "cni"

/-- The key of the extra names in the server certificate. -/
def tlsSanKey : String := "tls-san"

/-- Whether a key is one of the four. -/
def isReservedKey (key : String) : Bool :=
  key = tokenKey || key = cniKey || key = serverKey || key = tlsSanKey

/-! ## §2. Documents. -/

/-- The configuration of a role. -/
structure RoleDocument where
  /-- The secret that nodes join with. -/
  token : Option String
  /-- The network plugins, as written. -/
  cni : Setting
  /-- The address that nodes join at. -/
  server : Option String
  /-- The extra names in the server certificate, as written. -/
  tlsSan : Setting
  /-- All other options. -/
  options : Options
  deriving DecidableEq, Repr

/-- Why a text is not a role document. -/
inductive DocumentFault where
  /-- The text is no well-formed stream of documents. -/
  | malformed
  /-- Its first document is neither null nor a mapping. -/
  | notMapping
  /-- A key of the mapping is not a text. -/
  | keyNotText (key : Value)
  /-- A key that must be a scalar is a list or a mapping. -/
  | notScalar (key : String)
  deriving DecidableEq, Repr

/-- The wording of a fault.  A malformed text is reported without the place
of the error. -/
def DocumentFault.message : DocumentFault → String
  | malformed => "<yaml syntax error>"
  | notMapping => "expected a mapping at the top level"
  | keyNotText key => "unsupported non-string key " ++ key.describe
  | notScalar key => "'" ++ key ++ "' must be a scalar value"

namespace RoleDocument

/-- The document that sets nothing. -/
def empty : RoleDocument :=
  ⟨none, .absent, none, .absent, .empty⟩

instance : Inhabited RoleDocument := ⟨empty⟩

/-! ## §3. Reading. -/

/-- The textual form of a scalar under a key; null is as good as no entry. -/
def scalarSetting (key : String) : Value → Except DocumentFault (Option String)
  | .null => .ok none
  | v =>
      match v.scalarText? with
      | some s => .ok (some s)
      | none => .error (.notScalar key)

/-- The document with one more entry read. -/
def addEntry (doc : RoleDocument) : Entry → Except DocumentFault RoleDocument
  | (.str key, value) =>
      if key = tokenKey then do
        return { doc with token := ← scalarSetting tokenKey value }
      else if key = serverKey then do
        return { doc with server := ← scalarSetting serverKey value }
      else if key = cniKey then .ok { doc with cni := .ofValue Setting.text? value }
      else if key = tlsSanKey then .ok { doc with tlsSan := .ofValue Value.scalarText? value }
      else .ok { doc with options := doc.options.insert key value }
  | (key, _) => .error (.keyNotText key)

/-- The document that a mapping stands for. -/
def ofMapping (entries : List Entry) : Except DocumentFault RoleDocument :=
  entries.foldlM addEntry empty

/-- The document that the documents of a stream stand for: only the first
counts, and none or null is the empty document. -/
def ofDocuments : List Value → Except DocumentFault RoleDocument
  | [] => .ok empty
  | .null :: _ => .ok empty
  | .map entries :: _ => ofMapping entries
  | _ :: _ => .error .notMapping

/-- The document that a text stands for. -/
def ofText (text : String) : Except DocumentFault RoleDocument :=
  match Yaml.documents? text with
  | some docs => ofDocuments docs
  | none => .error .malformed

/-! ## §4. Writing. -/

/-- The named values with one more, if there is one. -/
def withOptional (key : String) (value : Option Value) (entries : List Named) : List Named :=
  match value with
  | some v => insertAscending key v entries
  | none => entries

/-- All keys of a document with their values, in ascending order. -/
def namedValues (doc : RoleDocument) : List Named :=
  withOptional tlsSanKey doc.tlsSan.toValue?
    (withOptional cniKey doc.cni.toValue?
      (withOptional serverKey (doc.server.map .str)
        (withOptional tokenKey (doc.token.map .str) doc.options.entries)))

/-- The mapping that a document is written as. -/
def toMapping (doc : RoleDocument) : List Entry :=
  doc.namedValues.map fun e => (.str e.1, e.2)

/-- The text that a document is written as. -/
def toText (doc : RoleDocument) : String :=
  (Value.map doc.toMapping).emit

/-! ## §5. Options. -/

/-- The value of an option. -/
def get? (doc : RoleDocument) (key : String) : Option Value :=
  doc.options.get? key

/-- The document with an option set; none if the key is one of the four that
are understood. -/
def insert? (doc : RoleDocument) (key : String) (value : Value) : Option RoleDocument :=
  if isReservedKey key then none
  else some { doc with options := doc.options.insert key value }

/-- Whether the document asks for SELinux. -/
def selinuxEnabled (doc : RoleDocument) : Bool :=
  doc.get? "selinux" = some (.bool true)

end RoleDocument

end ClusterBoot
