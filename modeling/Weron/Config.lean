import Weron.Wire

/-!
# Adapter configuration

`NewAdapter` stores the caller's `AdapterConfig`, or a default one, and replaces a blank
primary channel id by `"primary"` (`AdapterConfig.normalize`). Blankness is Go's
`strings.TrimSpace(s) == ""`, with Go's notion of a space (`isSpace`); the session loop
uses the same test to decide whether to mint an id.
-/

namespace Weron

/-- `unicode.IsSpace`: the Latin-1 spaces and the other code points with the Unicode
`White_Space` property. -/
def isSpace (c : Char) : Bool :=
  [0x09, 0x0A, 0x0B, 0x0C, 0x0D, 0x20, 0x85, 0xA0, 0x1680, 0x2028, 0x2029, 0x202F, 0x205F,
    0x3000].contains c.toNat || (0x2000 ≤ c.toNat && c.toNat ≤ 0x200A)

/-- `strings.TrimSpace`: the string without its leading and trailing spaces. -/
def trimSpace (s : String) : String :=
  ⟨((s.toList.dropWhile isSpace).reverse.dropWhile isSpace).reverse⟩

/-- `AdapterConfig`, without `Timeout` and `Verbose`: the model has no clock and writes no
log. -/
structure AdapterConfig where
  id : String
  primaryChannelId : String
  deriving DecidableEq, Repr

namespace AdapterConfig

/-- The configuration `NewAdapter` keeps: the default one when the caller passes `nil`, and
the literal `"primary"` in place of a blank primary channel id. -/
def normalize (config : Option AdapterConfig) : AdapterConfig :=
  let config := config.getD ⟨"", ""⟩
  if trimSpace config.primaryChannelId = "" then { config with primaryChannelId := "primary" }
  else config

/-- The primary channel id `NewAdapter` keeps is never blank. -/
theorem normalize_primaryChannelId (config : Option AdapterConfig) :
    trimSpace (normalize config).primaryChannelId ≠ "" := by
  unfold normalize
  dsimp only
  split
  · exact (by decide : trimSpace "primary" ≠ "")
  · assumption

end AdapterConfig

end Weron
