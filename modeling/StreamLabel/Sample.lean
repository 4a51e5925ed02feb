import StreamLabel.Context

/-!
# The sample stream

A context for previews without a stream at hand.
-/

namespace StreamLabel

def sampleContext : Context where
  stream := [
    ("filename", .text "The.Show.S01E02.1080p.WEB-DL.DDP5.1.Atmos.DV.HDR.H.265-GROUP.mkv"),
    ("title", .text "The Show"),
    ("year", .int 2024),
    ("season", .int 1),
    ("episode", .int 2),
    ("quality", .text "WEBDL"),
    ("resolution", .text "1080p"),
    ("size", .int 2684354560),
    ("visualTags", .list [.text "DV", .text "HDR"]),
    ("audioTags", .list [.text "Atmos", .text "DD+"]),
    ("languages", .list [.text "English"]),
    ("languageEmojis", .list [.text "🇬🇧"]),
    ("releaseGroup", .text "GROUP"),
    ("encode", .text "HEVC"),
    ("seeders", .int 125),
    ("personal", .bool false),
    ("proxied", .bool false)]
  provider := [
    ("id", .text "realdebrid"),
    ("name", .text "Real-Debrid"),
    ("shortName", .text "RD"),
    ("cached", .bool true)]
  addon := [
    ("id", .text "torrentio"),
    ("name", .text "Torrentio")]

end StreamLabel
