import Pagecraft.Text.Basic

/-! The name from which a bundle names its page and its archive. -/
namespace Pagecraft.Bundle

def fallbackName : Text := "landing_page".toList

def nameChar (c : Char) : Char := if c.isAlphanum then c.toLower else '_'

def baseName (name : Text) : Text := if name.isEmpty then fallbackName else name.map nameChar

end Pagecraft.Bundle
