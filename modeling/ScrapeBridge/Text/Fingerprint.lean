namespace ScrapeBridge.Text

def mix (h : UInt64) (b : UInt8) : UInt64 := (h ^^^ b.toUInt64) * 1099511628211

/-- The FNV-1a hash of a text in 64 bits, by which the metrics library is assumed to tell labels
apart. -/
def fingerprint (s : String) : UInt64 :=
  (s.toList.flatMap String.utf8EncodeChar).foldl mix 14695981039346656037

end ScrapeBridge.Text
