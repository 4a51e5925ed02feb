import StreamLabel.Template.Printer

/-!
# The catalog of properties

The properties that a template can usefully refer to. Any other reference is allowed and stands for
nothing; templates can be searched for such references.
-/

namespace StreamLabel

structure PropertyEntry where
  space : Namespace
  name : String
  description : String
deriving DecidableEq, Repr

namespace PropertyEntry

def reference (p : PropertyEntry) : Reference := ⟨p.space, p.name⟩

/-- The placeholder of the property. -/
def usage (p : PropertyEntry) : String := inBraces p.reference.text

end PropertyEntry

namespace Catalog

def entries : List PropertyEntry := [
  ⟨.stream, "filename", "Full filename of the stream"⟩,
  ⟨.stream, "title", "Title of the movie or TV show"⟩,
  ⟨.stream, "year", "Release year"⟩,
  ⟨.stream, "season", "Season number for TV shows"⟩,
  ⟨.stream, "episode", "Episode number for TV shows"⟩,
  ⟨.stream, "quality", "Quality tag (WEBDL, BluRay, etc.)"⟩,
  ⟨.stream, "resolution", "Resolution (1080p, 4K, etc.)"⟩,
  ⟨.stream, "size", "File size in bytes"⟩,
  ⟨.stream, "visualTags", "Visual tags (HDR, DV, etc.)"⟩,
  ⟨.stream, "audioTags", "Audio tags (Atmos, DTS, etc.)"⟩,
  ⟨.stream, "languages", "Language codes"⟩,
  ⟨.stream, "languageEmojis", "Language emoji flags"⟩,
  ⟨.stream, "releaseGroup", "Release group name"⟩,
  ⟨.stream, "encode", "Video encoding format"⟩,
  ⟨.stream, "seeders", "Number of seeders for torrents"⟩,
  ⟨.stream, "personal", "Whether the stream is from personal storage"⟩,
  ⟨.stream, "proxied", "Whether the stream is proxied"⟩,
  ⟨.provider, "id", "Provider ID (realdebrid, premiumize, etc.)"⟩,
  ⟨.provider, "name", "Full provider name"⟩,
  ⟨.provider, "shortName", "Short provider name"⟩,
  ⟨.provider, "cached", "Whether the stream is cached on the provider"⟩,
  ⟨.addon, "id", "Addon ID"⟩,
  ⟨.addon, "name", "Addon name"⟩]

def find? (r : Reference) : Option PropertyEntry := entries.find? (·.reference == r)

def inSpace (space : Namespace) : List PropertyEntry := entries.filter (·.space == space)

def isKnown (r : Reference) : Bool := (find? r).isSome

/-- Removes what stands before it in the list already. -/
def distinct (rs : List Reference) : List Reference :=
  rs.foldl (fun found r => if found.contains r then found else found ++ [r]) []

end Catalog

/-- The references of a template that the catalog does not list, each once, in order. -/
def Template.unknownReferences (t : Template) : List Reference :=
  Catalog.distinct (t.references.filter fun r => !Catalog.isKnown r)

end StreamLabel
