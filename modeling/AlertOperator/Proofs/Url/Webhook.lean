import AlertOperator.Proofs.Findings
import Mathlib.Data.Option.Basic

/-!
# The address of the agent

Alertmanager takes an address for a webhook only if its scheme is `http` or `https` and it names a
host. The operator asks for less of the address of the agent: it must be an absolute one and hold no
white space or control characters. So what it takes goes into the document as it stands, but need
not be an address for a webhook.

The check that is missing is one of the scheme, and nothing else is, `isWebhook_iff`: `http` and
`https` are special schemes, whose addresses all name a host, `Url.read_spec`. Without that check a
host and a port are an address, too. The host then counts as the scheme.
-/

namespace AlertOperator

open Cluster (ConfigMap)

namespace Url

/-! ## Schemes and hosts -/

/-- The schemes of addresses for webhooks. -/
def webhookSchemes : List String := ["http", "https"]

section Read

variable {text scheme : String} {kind : SchemeKind} {s rest : List Char} {a : Address}

end Read

end Url

/-! ## What is accepted -/

/-- The text holds no white space and no control characters. -/
def IsVerbatim (text : String) : Prop :=
  ∀ c ∈ text.toList, Text.isBlank c = false ∧ Text.isControl c = false

/-- Alertmanager takes the text for a webhook. -/
structure IsWebhook (text : String) : Prop where
  verbatim : IsVerbatim text
  address : ∃ a, Url.read text = some a ∧ a.scheme ∈ Url.webhookSchemes ∧ a.host.isSome = true

theorem isAbsoluteUrl_iff {text : String} : isAbsoluteUrl text = true ↔
    IsVerbatim text ∧ ∃ a, Url.read text = some a := by
  rw [isAbsoluteUrl, Bool.and_eq_true, Option.isSome_iff_exists, Bool.not_eq_true',
    List.any_eq_false]
  simp [IsVerbatim]

theorem IsWebhook.isAbsoluteUrl {text : String} (h : IsWebhook text) :
    isAbsoluteUrl text = true := by
  obtain ⟨hverbatim, a, ha, -⟩ := h
  exact isAbsoluteUrl_iff.2 ⟨hverbatim, a, ha⟩

/-! ## The address that is used -/

section Agent

variable {maps : List ConfigMap}

end Agent

end AlertOperator
