/-! Powers of two and of ten. -/
namespace Pagecraft

def twoTo (k : Nat) : Nat := Nat.pow 2 k

def tenTo (k : Nat) : Nat := Nat.pow 10 k

end Pagecraft
