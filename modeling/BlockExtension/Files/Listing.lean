import BlockExtension.Files.Lookup

/-!
# Listings

What there is below the working directory, as one sorted list of names. A link
to a directory is shown as a directory, with all that is in it, and another link
as a file that everybody may use, with the content that it leads to.
-/

namespace BlockExtension.Files

namespace Tree

/-- The entries below a directory by their names, with a path before them. -/
def below (tree : Tree) : (fuel : Nat) → (before : String) → Location → List (String × Entry)
  | 0, _, _ => []
  | fuel + 1, before, location =>
      (tree.children location).flatMap fun (name, entry) =>
        let path := before ++ name
        let inside (mode : Nat) (place : Location) : List (String × Entry) :=
          (path ++ "/", .directory mode) :: tree.below fuel (path ++ "/") place
        match entry with
        | .directory mode => inside mode (location ++ [name])
        | .link target =>
            match tree.find path with
            | .ok (place, .directory mode) => inside mode place
            | .ok (_, .file content _) => [(path, .file content (Entry.link target).mode)]
            | _ => [(path, .file .empty (Entry.link target).mode)]
        | entry => [(path, entry)]

def listingDepth : Nat := 100

/-- The entries below the working directory, by name; a slash is behind a directory. -/
def listing (tree : Tree) : List (String × Entry) :=
  (tree.below listingDepth "" tree.workingDirectory).mergeSort fun a b => a.1 ≤ b.1

end Tree

end BlockExtension.Files
