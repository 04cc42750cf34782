/-
Links, the paths under which a channel is joined.

A link without the slashes at its end splits at its last slash: what follows
is the channel's segment, what stands before it the base. Without a slash
the whole is the segment and the base is empty.
-/

namespace PairingHarness.Link

/-- The characters without the slashes at their end. -/
def withoutEndSlashes (cs : List Char) : List Char :=
  (cs.reverse.dropWhile (· = '/')).reverse

/-- The characters after the last slash. -/
def afterLastSlash (cs : List Char) : List Char :=
  (cs.reverse.takeWhile (· ≠ '/')).reverse

/-- The characters before the last slash, none where there is no slash. -/
def beforeLastSlash (cs : List Char) : List Char :=
  ((cs.reverse.dropWhile (· ≠ '/')).drop 1).reverse

/-- The last segment of a link, its channel (`link_tail`). -/
def tail (link : String) : String :=
  String.ofList (afterLastSlash (withoutEndSlashes link.toList))

/-- The link without its last segment and the slash before it (`link_base`).
-/
def base (link : String) : String :=
  String.ofList (beforeLastSlash (withoutEndSlashes link.toList))

end PairingHarness.Link
