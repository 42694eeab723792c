/-
  ClusterBoot.TlsSan
  ────────────────────────────────
  **ADDRESSES IN THE SERVER CERTIFICATE.**

  Addresses are added to the `tls-san` list of a role document.  A setting
  that is a text is first cut at its commas; one that is neither text nor
  list is dropped with a warning.
-/
import ClusterBoot.Text.Blank
import ClusterBoot.Text.Pieces
import ClusterBoot.Warning

namespace ClusterBoot

/-! ## §1. Addresses of a setting. -/

/-- The addresses in a text: its pieces between commas, trimmed, without the
empty ones. -/
def addressesOf (text : String) : List String :=
  ((Text.pieces ',' text).map Text.trim).filter (· ≠ "")

/-- The addresses of a setting. -/
def Setting.addresses : Setting → List String
  | .single text => addressesOf text
  | .list items => items
  | .absent | .other _ => []

/-- The warning that dropping a setting brings. -/
def Setting.discarded? : Setting → Option Warning
  | .other value => some (.discardedTlsSan value)
  | _ => none

/-! ## §2. Adding addresses. -/

/-- What becomes of an address that is listed already. -/
inductive TlsSanPolicy where
  /-- It is listed again. -/
  | append
  /-- It is left out. -/
  | deduplicate
  deriving Repr, DecidableEq

/-- A list of addresses with one more. -/
def TlsSanPolicy.add (policy : TlsSanPolicy) (address : String) (list : List String) :
    List String :=
  match policy with
  | append => list ++ [address]
  | deduplicate => if address ∈ list then list else list ++ [address]

namespace RoleDocument

/-- Add an address to the list of a document. -/
def mergeTlsSan (policy : TlsSanPolicy) (address : String) (doc : RoleDocument) :
    RoleDocument × Option Warning :=
  if address = "" then (doc, some .emptyAddress)
  else
    ({ doc with tlsSan := .list (policy.add address doc.tlsSan.addresses) },
      doc.tlsSan.discarded?)

/-- Add an address to the list of a document, also if it is listed already. -/
def appendTlsSan (address : String) (doc : RoleDocument) : RoleDocument × Option Warning :=
  doc.mergeTlsSan .append address

/-- Turn the setting of a document into a list, unless it is absent. -/
def normalizeTlsSan (doc : RoleDocument) : RoleDocument × Option Warning :=
  if doc.tlsSan = .absent then (doc, none)
  else ({ doc with tlsSan := .list doc.tlsSan.addresses }, doc.tlsSan.discarded?)

end RoleDocument

end ClusterBoot
