import FormRules.Predicate.Builtin
/-!
# All registries

Rule names are looked up in the two registries on the shelves, and a client may make registries of
its own besides.  A predicate is registered in a registry or declared as a rule; a declaration that
names no registry is for the standard one.
-/
namespace FormRules

/-- Where a registry is: on a shelf, or with the client that has made it. -/
inductive Place where
  | shelf (s : Shelf)
  | own (id : Nat)
deriving DecidableEq, Repr

/-- The registries on the shelves and those that clients have made. -/
structure Stock where
  shelves : Registries
  own : Nat → Registry

namespace Stock

/-- Registries that nothing has been registered in; those of clients are named by them. -/
def fresh (names : Nat → String) : Stock := ⟨.empty, fun id => .empty (names id)⟩

def get (s : Stock) : Place → Registry
  | .shelf shelf => s.shelves.get shelf
  | .own id => s.own id

/-- Change one of the registries. -/
def modify (s : Stock) (place : Place) (f : Registry → Registry) : Stock :=
  match place with
  | .shelf shelf => { s with shelves := s.shelves.modify shelf f }
  | .own id => { s with own := fun id' => if id' = id then f (s.own id) else s.own id' }

/-- What can be done to registries. -/
inductive Operation where
  | register (place : Place) (rule : String) (registration : Registration)
  | declare (place : Option Place) (rule : String) (registration : Registration)
  | registerBuiltins
  | clear (place : Place)

/-- The registry that a declared rule goes to. -/
def declaredAt (place : Option Place) : Place := place.getD (.shelf .standard)

def apply (s : Stock) : Operation → Stock
  | .register place rule registration => s.modify place (·.register rule registration)
  | .declare place rule registration => s.modify (declaredAt place) (·.register rule registration)
  | .registerBuiltins => { s with shelves := s.shelves.withBuiltins }
  | .clear place => s.modify place Registry.clear

/-- The registries after operations. -/
def after (s : Stock) (operations : List Operation) : Stock := operations.foldl apply s

end Stock

end FormRules
