namespace OpenApiCodegen

def powerOfTwo (n : Nat) : Nat :=
  Nat.pow 2 n

def powerOfTen (n : Nat) : Nat :=
  Nat.pow 10 n

end OpenApiCodegen
