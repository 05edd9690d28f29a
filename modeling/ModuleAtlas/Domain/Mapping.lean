import ModuleAtlas.Domain.Mapping.Table
import ModuleAtlas.Text.Composition
import ModuleAtlas.Text.Letters

/-!
# Normal form of domain names

In a domain name capital letters, wide letters and the like stand for plain
lower-case letters, some characters are passed over, and others may not occur
at all.  Names are compared in the composed form.
-/

namespace ModuleAtlas.Domain

/-- What a character stands for; none when it may not occur. -/
def image? (c : Char) : Option (List Char) :=
  if c.toNat < 0x80 then some [c.toLower]
  else
    match mappingTable.image? c.toNat with
    | some codes => some (codes.map Char.ofNat)
    | none =>
      if Text.isBetween forbiddenBounds c.toNat then none else some [c]

/-- The normal form of a name. -/
def normalForm? (name : List Char) : Option (List Char) :=
  (name.mapM image?).map fun images => Text.composed images.flatten

/-- Whether a name is in normal form. -/
def isNormal (name : List Char) : Bool :=
  name.all (fun c => image? c = some [c]) && Text.composed name = name

end ModuleAtlas.Domain
