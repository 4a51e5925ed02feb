import StreamLabel.Definition

/-!
# Presets

Snippets to be pasted into templates, and complete definitions for common cases.
-/

namespace StreamLabel

structure Snippet where
  id : String
  name : String
  code : String
  description : String

structure Preset where
  id : String
  name : String
  nameTemplate : String
  descriptionTemplate : String
  description : String

def Preset.definition (p : Preset) : Definition := ⟨p.nameTemplate, p.descriptionTemplate⟩

namespace Presets

/-- The season as `S` and two digits. -/
def season : String :=
  "\x7bstream.season::>=0[\"S\"||\"\"]\x7d" ++
  "\x7bstream.season::<=9[\"0\"||\"\"]\x7d" ++
  "\x7bstream.season::>0[\"\x7bstream.season\x7d\"||\"\"]\x7d"

/-- The episode as `E` and two digits. -/
def episode : String :=
  "\x7bstream.episode::>=0[\"E\"||\"\"]\x7d" ++
  "\x7bstream.episode::<=9[\"0\"||\"\"]\x7d" ++
  "\x7bstream.episode::>0[\"\x7bstream.episode\x7d\"||\"\"]\x7d"

def detailedDescription : String :=
  "\x7bprovider.cached::=true[\"✓ Cached\"||\"\"]\x7d " ++
  "\x7bstream.size::size\x7d | " ++
  "\x7bstream.visualTags::/^$|null/[\"\"||\"\x7bstream.visualTags\x7d \"]\x7d" ++
  "\x7bstream.audioTags::/^$|null/[\"\"||\"\x7bstream.audioTags\x7d \"]\x7d" ++
  "\x7bstream.languageEmojis::/^$|null/[\"\"||\"\x7bstream.languageEmojis\x7d \"]\x7d" ++
  "\x7bstream.releaseGroup::/^$|Unknown/[\"\"||\"- \x7bstream.releaseGroup\x7d\"]\x7d"

/-- A property behind a blank, unless it is empty or unknown. -/
def quality : String := "\x7bstream.quality::/^$|Unknown/[\"\"||\" \x7bstream.quality\x7d\"]\x7d"

def resolution : String :=
  "\x7bstream.resolution::/^$|Unknown/[\"\"||\" \x7bstream.resolution\x7d\"]\x7d"

def snippets : List Snippet := [
  ⟨"season", "Season Number (S01 format)", season, "Formats season numbers as S01, S02, etc."⟩,
  ⟨"episode", "Episode Number (E01 format)", episode, "Formats episode numbers as E01, E02, etc."⟩,
  ⟨"quality", "Quality Tag", quality, "Adds quality tag if available (e.g., WEBDL, BluRay)"⟩,
  ⟨"resolution", "Resolution Tag", resolution, "Adds resolution if available (e.g., 1080p, 4K)"⟩,
  ⟨"size", "File Size", "\x7bstream.size::size\x7d", "Shows formatted file size (e.g., 2.50 GB)"⟩,
  ⟨"visualTags", "Visual Tags (HDR, DV)",
    "\x7bstream.visualTags::/^$|null/[\"\"||\" \x7bstream.visualTags\x7d\"]\x7d",
    "Shows visual tags like HDR, Dolby Vision, etc."⟩,
  ⟨"audioTags", "Audio Tags (Atmos, DTS)",
    "\x7bstream.audioTags::/^$|null/[\"\"||\" \x7bstream.audioTags\x7d\"]\x7d",
    "Shows audio tags like Atmos, DTS, etc."⟩,
  ⟨"languages", "Language Emojis",
    "\x7bstream.languageEmojis::/^$|null/[\"\"||\" \x7bstream.languageEmojis\x7d\"]\x7d",
    "Shows language emojis for available audio tracks"⟩,
  ⟨"releaseGroup", "Release Group",
    "\x7bstream.releaseGroup::/^$|Unknown/[\"\"||\" - \x7bstream.releaseGroup\x7d\"]\x7d",
    "Shows the release group name"⟩,
  ⟨"cached", "Cached Status", "\x7bprovider.cached::=true[\"✓ \"||\"\"]\x7d",
    "Shows a checkmark if the stream is cached"⟩]

def templates : List Preset := [
  ⟨"tv-show", "TV Show Template",
    "\x7bstream.title\x7d " ++ season ++ episode ++ quality ++ resolution,
    detailedDescription,
    "Complete template for TV shows with all important information"⟩,
  ⟨"movie", "Movie Template",
    "\x7bstream.title\x7d \x7bstream.year::/^$|null/[\"\"||\"(\x7bstream.year\x7d)\"]\x7d " ++
      "\x7bstream.quality::/^$|Unknown/[\"\"||\"\x7bstream.quality\x7d \"]\x7d" ++
      "\x7bstream.resolution::/^$|Unknown/[\"\"||\"\x7bstream.resolution\x7d\"]\x7d",
    detailedDescription,
    "Complete template for movies with all important information"⟩,
  ⟨"minimalist", "Minimalist Template",
    "\x7bstream.title\x7d " ++ season ++ episode,
    "\x7bstream.resolution::/^$|Unknown/[\"\"||\"\x7bstream.resolution\x7d \"]\x7d" ++
      "\x7bprovider.cached::=true[\"✓\"||\"\"]\x7d " ++ "\x7bstream.size::size\x7d",
    "Minimalist template with only essential information"⟩]

def snippet? (id : String) : Option Snippet := snippets.find? (·.id == id)

def template? (id : String) : Option Preset := templates.find? (·.id == id)

end Presets

end StreamLabel
