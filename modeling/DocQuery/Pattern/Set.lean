import DocQuery.Unicode.Binary

/-!
Sets of characters that patterns name.
-/
namespace DocQuery.CharSet

def digit : CharSet := Unicode.Category.of "Nd"
def space : CharSet := Unicode.whiteSpace
def word : CharSet := Unicode.Binary.word

def asciiDigit : CharSet := range '0' '9'
def asciiSpace : CharSet := join [range '\t' '\r', single ' ']
def asciiLower : CharSet := range 'a' 'z'
def asciiUpper : CharSet := range 'A' 'Z'
def asciiAlpha : CharSet := join [asciiLower, asciiUpper]
def asciiAlnum : CharSet := join [asciiDigit, asciiAlpha]
def asciiWord : CharSet := join [asciiAlnum, single '_']
def asciiPunct : CharSet :=
  join [range '!' '/', range ':' '@', range '[' '\x60', range '\x7b' '~']

def named : List (String × CharSet) :=
  [("alnum", asciiAlnum), ("alpha", asciiAlpha), ("ascii", ascii),
   ("blank", join [single '\t', single ' ']),
   ("cntrl", join [range '\x00' '\x1f', single '\x7f']), ("digit", asciiDigit),
   ("graph", range '!' '~'), ("lower", asciiLower), ("print", range ' ' '~'),
   ("punct", asciiPunct), ("space", asciiSpace), ("upper", asciiUpper), ("word", asciiWord),
   ("xdigit", join [asciiDigit, range 'A' 'F', range 'a' 'f'])]

end DocQuery.CharSet
