/-!
# Conformance.Class

Classes of host objects, as far as a schema can see them.

Classes are told apart by a number and shown by their full name. Two classes may
have the same full name, for instance when two versions of one library are in use:
an object of the one does not belong to the other.
-/

namespace Conformance

/-- A class of host objects: the number that tells it from every other class, and its
full name. Classes with one number have one name, so they are equal. -/
structure Class where
  id : Nat
  name : String
  deriving DecidableEq, Repr

namespace Class

/-- What follows the last `::` of a name, or else `best`. -/
def afterLastQualifier (best : List Char) : List Char → List Char
  | [] => best
  | c :: rest =>
    afterLastQualifier (if c = ':' ∧ rest.head? = some ':' then rest.tail else best) rest

/-- A full name without type arguments, that is up to its first `<`, and without
the qualifiers before it. -/
def baseName (c : Class) : String :=
  let base := c.name.toList.takeWhile (· ≠ '<')
  String.ofList (afterLastQualifier base base)

end Class

end Conformance
