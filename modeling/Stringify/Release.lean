/-!
# Releases

Stubs and command lines are written in a language of which several releases are in use, and these
differ in a few details. What is said about stubs holds for every release.
-/

namespace Stringify

/-- The details in which releases differ. -/
class Release where
  /-- A source with a null character is one that cannot be read. Otherwise it is a fault. -/
  refusesNull : Bool
  /-- The parts of a formatted text that no common quotes can enclose are quoted in the plain way.
  Otherwise each part chooses the quotes by itself then. -/
  fallsBack : Bool
  /-- Behind the short option for help, a character that is no option is passed over. Otherwise it
  is a value that the option does not take. -/
  passesOver : Bool

namespace Release

/-- The first of the releases. -/
abbrev early : Release := ⟨false, false, false⟩

/-- The last of the releases. -/
abbrev late : Release := ⟨true, true, true⟩

end Release

end Stringify
