import StreamLabel.Metadata.Schema

/-!
# The groups of metadata

The schemas of streams, providers and addons, and contexts put together from metadata that is read
by its schema or taken as it is.
-/

namespace StreamLabel

namespace Schema

/-- A field whose two spellings agree. -/
def field (name : String) (kind : FieldKind) : Field := ⟨name, name, kind⟩

def stream : Schema := [
  field "filename" .text,
  field "title" .text,
  field "year" .whole,
  field "season" .whole,
  field "episode" .whole,
  field "quality" .text,
  field "resolution" .text,
  field "size" .size,
  ⟨"visualTags", "visual_tags", .texts⟩,
  ⟨"audioTags", "audio_tags", .texts⟩,
  field "languages" .texts,
  ⟨"languageEmojis", "language_emojis", .texts⟩,
  ⟨"releaseGroup", "release_group", .text⟩,
  field "encode" .text,
  field "seeders" .whole,
  field "personal" .truth,
  field "proxied" .truth]

def provider : Schema := [
  field "id" .text,
  field "name" .text,
  ⟨"shortName", "short_name", .text⟩,
  field "cached" .truth]

def addon : Schema := [field "id" .text, field "name" .text]

def ofSpace : Namespace → Schema
  | .stream => stream
  | .provider => provider
  | .addon => addon

end Schema

/-- The metadata of one group. -/
inductive Metadata where
  | missing
  | typed (ps : Properties)
  | plain (ps : Properties)

namespace Metadata

def properties (space : Namespace) : Metadata → Except (List FieldError) Properties
  | .missing => .ok []
  | .typed ps => (Schema.ofSpace space).read ps
  | .plain ps => .ok (dropNulls ps)

end Metadata

/-- The context of three groups of metadata, or what is wrong with the first that does not fit. -/
def Context.ofMetadata (stream provider addon : Metadata) : Except (List FieldError) Context := do
  let s ← stream.properties .stream
  let p ← provider.properties .provider
  let a ← addon.properties .addon
  return ⟨s, p, a⟩

end StreamLabel
