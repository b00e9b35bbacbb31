import AnnotationBridge.Domain.Name
import AnnotationBridge.Text.Utf8
import AnnotationBridge.Uri.Percent

/-!
# Hosts of file URLs

A `Host` is what the host of a URL says about a file: that it is on this machine or on another one.

* `Host.ofChars`: reads a host.
-/

namespace AnnotationBridge.FileUrl

/-- What the host of a URL says about the file. -/
inductive Host where
  | here
  | elsewhere
  | malformed
  deriving DecidableEq, Repr

namespace Host

/-- The name of this machine. -/
def localName : Domain.Name :=
  ["localhost".toList]

/-- What the name of a host says. A name that ends in a number has to be an address. -/
def ofName (n : Domain.Name) : Host :=
  if n = localName then .here
  else if n.endsInNumber && !n.isAddress then .malformed
  else .elsewhere

/-- Reads a host. No host stands for this machine, and brackets are put around an IPv6 address; else
it is a domain name, in which escapes stand for the bytes of its text. -/
def ofChars (cs : List Char) : Host :=
  if cs = [] then .here
  else if cs.head? = some '[' then if cs.getLast? = some ']' then .elsewhere else .malformed
  else
    match (Text.Utf8.decode? (Percent.decode cs)).bind (Domain.Name.ofText? ·.toList) with
    | some name => ofName name
    | none => .malformed

/-- No host stands for this machine. -/
theorem ofChars_nil : ofChars [] = here := rfl

end Host

end AnnotationBridge.FileUrl
