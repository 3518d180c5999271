/-!
# Capitals

Names that are written in capital ASCII letters are compared without regard to case. Besides the
letters of ASCII a few others have capitals in that range: the dotless i, the long s, the sharp s
and the ligatures of f, s and t.
-/

namespace Kanban.Text

/-- The letters outside ASCII whose capitals are letters of ASCII. -/
def foreignCapitals : List (Char × List Char) :=
  [('ı', ['I']), ('ſ', ['S']), ('ß', ['S', 'S']), ('ﬀ', ['F', 'F']), ('ﬁ', ['F', 'I']),
    ('ﬂ', ['F', 'L']), ('ﬃ', ['F', 'F', 'I']), ('ﬄ', ['F', 'F', 'L']), ('ﬅ', ['S', 'T']),
    ('ﬆ', ['S', 'T'])]

/-- The capitals of a letter, as far as they are letters of ASCII. Any other character stays as it
is. -/
def capital (c : Char) : List Char := (foreignCapitals.lookup c).getD [c.toUpper]

def capitals (s : String) : String := String.ofList (s.toList.flatMap capital)

end Kanban.Text
