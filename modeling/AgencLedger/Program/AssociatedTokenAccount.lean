import AgencLedger.Sol.Instruction

/-!
# Program/AssociatedTokenAccount — creation of associated token accounts

`Create`, with its legacy form that has no data, and `CreateIdempotent` are parsed and shown alike.
-/

namespace AgencLedger

/-- `SplAssociatedTokenAccountCreateInfo`, the only member of `SplAssociatedTokenAccountInfo`. -/
structure SplAssociatedTokenAccountCreateInfo where
  funder : Ptr Pubkey
  address : Ptr Pubkey
  owner : Ptr Pubkey
  mint : Ptr Pubkey
  deriving DecidableEq

/-- An account that may be missing, skipped. -/
def skipAccountIfAny : InstrM Unit := do
  if (← remainingAccounts) = 0 then return () else skipAccount

/-- `parse_create_spl_associated_token_account_instruction`. -/
def parseCreateSplAssociatedTokenAccountInstruction :
    InstrM SplAssociatedTokenAccountCreateInfo := do
  let funder ← nextAccount
  let address ← nextAccount
  let owner ← nextAccount
  let mint ← nextAccount
  skipAccount -- system program
  skipAccount -- token program
  skipAccountIfAny -- rent sysvar
  return { funder, address, owner, mint }

/-- `parse_spl_associated_token_account_instructions`. -/
def parseSplAssociatedTokenAccountInstructions (dataLength : ℕ) :
    InstrM SplAssociatedTokenAccountCreateInfo := do
  if dataLength = 0 then
    parseCreateSplAssociatedTokenAccountInstruction
  else
    let kind ← parseU8
    let c ← get
    instrBailIf (!parserIsEmpty c.parser)
    match kind.toNat with
    | 0 => parseCreateSplAssociatedTokenAccountInstruction
    | 1 => parseCreateSplAssociatedTokenAccountInstruction
    | _ => throw .bail

/-- `print_spl_associated_token_account_create_info`. -/
def printSplAssociatedTokenAccountCreateInfo (info : SplAssociatedTokenAccountCreateInfo) :
    Script :=
  primary "Create token account" (.pubkey info.address)
    ++ general "For" (.pubkey info.owner)
    ++ general "Token address" (.pubkey info.mint)
    ++ general "Funded by" (.pubkey info.funder)

/-- `print_spl_associated_token_account_info`. -/
def printSplAssociatedTokenAccountInfo (info : SplAssociatedTokenAccountCreateInfo) : Script :=
  printSplAssociatedTokenAccountCreateInfo info

end AgencLedger
