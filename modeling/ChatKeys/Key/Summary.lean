/-
  ChatKeys.Key.Summary

  One-line summaries of keys and key pairs for diagnosis.  They show type, state
  and context, and never material.
-/
import ChatKeys.Key.Pair
import ChatKeys.Text.Quoted

namespace ChatKeys

/-- The named parts of a summary between braces. -/
def summaryBraces (parts : List String) : String :=
  " \x7b " ++ ", ".intercalate parts ++ " \x7d"

/-- The summary of a context. -/
def KeyContext.summary (c : KeyContext) : String :=
  "KeyContext" ++ summaryBraces
    ["namespace: " ++ Text.quoted c.scope, "value: " ++ Text.quoted c.value]

/-- The summary of a key. -/
def Key.summary (k : Key) : String :=
  let context :=
    match k.context with
    | none => "None"
    | some c => "Some(" ++ c.summary ++ ")"
  "ManagedKey" ++ summaryBraces
    ["key_type: " ++ k.type.displayName, "encrypted: " ++ (if k.isEncrypted then "true" else "false"),
      "context: " ++ context, ".."]

/-- The summary of a key pair. -/
def KeyPair.summary (p : KeyPair) : String :=
  let publicKey := ", ".intercalate (p.publicKey.map fun b => toString b.toNat)
  "ManagedKeyPair" ++ summaryBraces
    ["key_pair_type: X25519", "public_key: [" ++ publicKey ++ "]",
      "private_key: " ++ p.privateKey.summary]

end ChatKeys
