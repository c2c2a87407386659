import NetPlugin.PluginError

/-
  Whether a path names the network namespace that the
  plugin itself runs in.

  Key definitions include:
    * `NamespaceQuery`
    * `NamespaceQuery.fixed`
    * `Netns.Device`
    * `Netns.FileId`
    * `NamespaceQuery.ofLookup`
-/

------------------------------------------------------------
-- Identities
------------------------------------------------------------

namespace NetPlugin

/- The answer for a path, or why there is none. -/
abbrev NamespaceQuery :=
  String → Except PluginError Bool

namespace NamespaceQuery

/-
  A fixed answer: a failure, if there is one, and otherwise
  the one path that is current.
-/
def fixed
    (current : Option String)
    (failure : Option PluginError) : NamespaceQuery :=
  fun path =>
    match failure with
    | some e => .error e
    | none => .ok (current == some path)

end NamespaceQuery

------------------------------------------------------------
-- Files
------------------------------------------------------------

namespace Netns

/-
  What files are on: a device with numbers, the device of
  the namespaces, or a mount that the kernel keeps for
  itself and that has no numbers to be seen.
-/
inductive Device where
  | numbered (major minor : Nat)
  | namespaces
  | internal (mount : Nat)
  deriving DecidableEq, Repr

/- The device and the number of a file. -/
structure FileId where
  device : Device
  inode : Nat
  deriving DecidableEq, Repr

/- The namespace of the thread that asks. -/
def ownPath : String := "/proc/thread-self/ns/net"

/- The own namespace cannot be inspected. -/
def ownFailure : PluginError :=
  { code := .invalidNamespace
    message := "get plugin's netns failed" }

/- Another namespace cannot be inspected. -/
def otherFailure (reason : String) : PluginError :=
  { code := .invalidNamespace
    message := "get netns failed"
    details := reason }

/- A plugin was told to work on its own namespace. -/
def ownNamespace : PluginError :=
  { code := .invalidNamespace
    message :=
      "plugin's netns and netns from CNI_NETNS " ++
        "should not be the same" }

end Netns

/-
  Two paths name one namespace when they are one file.  No
  namespace has the empty path.
-/
def NamespaceQuery.ofLookup
    (lookup : String → Except String Netns.FileId) :
    NamespaceQuery :=
  fun path =>
    if path = "" then .ok false
    else
      match lookup Netns.ownPath with
      | .error _ => .error Netns.ownFailure
      | .ok own =>
          match lookup path with
          | .error reason => .error (Netns.otherFailure reason)
          | .ok other => .ok (own == other)

end NetPlugin
