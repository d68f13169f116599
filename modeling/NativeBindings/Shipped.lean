import NativeBindings.Document.Decode

/-!
# Built-in schemas

The texts of the schemas that are installed with the program. A run reads them where no path is
given (`readBuiltinProtocolSchema`, `readBuiltinDomainSchema`).
-/
namespace NativeBindings

namespace Shipped

namespace Client

def head : List String := [
  "schema:",
  "  name: client",
  "  version: 1",
  "  description: Packet layout and lifecycle of the native ledger client.",
  "",
  "client:",
  "  library: clientlib",
  "  symbol-prefix: ledger_client",
  "  roles:",
  "    operation: operation_t",
  "    status: status_t",
  "    packet: packet_t",
  "    handle: client_t",
  ""]

def types : List String := [
  "types:",
  "  - name: operation_t",
  "    kind:",
  "      enum:",
  "        tag: u8",
  "        variants:",
  "          - \x7b name: reserved, value: 0 \x7d",
  "          - \x7b name: root, value: 1 \x7d",
  "          - \x7b name: register, value: 2 \x7d",
  "          - \x7b name: pulse, value: 128 \x7d",
  "          - \x7b name: create_accounts, value: 129 \x7d",
  "          - \x7b name: create_transfers, value: 130 \x7d",
  "          - \x7b name: lookup_accounts, value: 131 \x7d",
  "          - \x7b name: lookup_transfers, value: 132 \x7d",
  "          - \x7b name: get_account_transfers, value: 133 \x7d",
  "          - \x7b name: get_account_balances, value: 134 \x7d",
  "          - \x7b name: query_accounts, value: 135 \x7d",
  "          - \x7b name: query_transfers, value: 136 \x7d",
  "",
  "  - name: packet_status_t",
  "    kind:",
  "      enum:",
  "        tag: u8",
  "        variants:",
  "          - \x7b name: ok, value: 0 \x7d",
  "          - \x7b name: too_much_data, value: 1 \x7d",
  "          - \x7b name: client_evicted, value: 2 \x7d",
  "          - \x7b name: client_release_too_low, value: 3 \x7d",
  "          - \x7b name: client_release_too_high, value: 4 \x7d",
  "          - \x7b name: client_shutdown, value: 5 \x7d",
  "          - \x7b name: invalid_operation, value: 6 \x7d",
  "          - \x7b name: invalid_data_size, value: 7 \x7d",
  "",
  "  - name: packet_t",
  "    kind:",
  "      struct:",
  "        layout: extern",
  "        fields:",
  "          - \x7b name: next, type: \"?*packet_t\" \x7d",
  "          - \x7b name: user_data, type: \"?*anyopaque\" \x7d",
  "          - \x7b name: operation, type: u8 \x7d",
  "          - \x7b name: status, type: packet_status_t \x7d",
  "          - \x7b name: data_size, type: u32 \x7d",
  "          - \x7b name: data, type: \"?*anyopaque\" \x7d",
  "          - \x7b name: batch_next, type: \"?*packet_t\" \x7d",
  "          - \x7b name: batch_tail, type: \"?*packet_t\" \x7d",
  "          - \x7b name: batch_size, type: u32 \x7d",
  "          - \x7b name: batch_allowed, type: bool \x7d",
  "          - \x7b name: reserved, type: \"[7]u8\" \x7d",
  "",
  "  - name: client_t",
  "    kind:",
  "      alias: \"*anyopaque\"",
  "",
  "  - name: status_t",
  "    kind:",
  "      enum:",
  "        tag: u32",
  "        variants:",
  "          - \x7b name: success, value: 0 \x7d",
  "          - \x7b name: unexpected, value: 1 \x7d",
  "          - \x7b name: out_of_memory, value: 2 \x7d",
  "          - \x7b name: address_invalid, value: 3 \x7d",
  "          - \x7b name: address_limit_exceeded, value: 4 \x7d",
  "          - \x7b name: system_resources, value: 5 \x7d",
  "          - \x7b name: network_subsystem, value: 6 \x7d",
  ""]

def mappings : List String := [
  "mappings:",
  "  - \x7b type: operation_t, name: Operation, skip: [reserved, root, register] \x7d",
  "  - \x7b type: packet_status_t, name: PacketStatus \x7d",
  "  - \x7b type: packet_t, name: Packet \x7d",
  "  - \x7b type: client_t, name: Client \x7d",
  "  - \x7b type: status_t, name: Status \x7d"]

/-- The protocol schema: operation codes, packet layout and client lifecycle. -/
def text : String := Text.ofLines (head ++ types ++ mappings)

def document : Document := (Document.parse text).toOption.getD default

end Client

namespace Ledger

def flags : List String := [
  "schema:",
  "  name: ledger",
  "  version: 1",
  "  description: Accounts, transfers and queries of the double-entry ledger.",
  "",
  "types:",
  "  - name: account_flags_t",
  "    kind:",
  "      struct:",
  "        layout: packed",
  "        fields:",
  "          - \x7b name: linked, type: bool \x7d",
  "          - \x7b name: debits_must_not_exceed_credits, type: bool \x7d",
  "          - \x7b name: credits_must_not_exceed_debits, type: bool \x7d",
  "          - \x7b name: history, type: bool \x7d",
  "          - \x7b name: imported, type: bool \x7d",
  "          - \x7b name: closed, type: bool \x7d",
  "          - \x7b name: padding, type: u10 \x7d",
  "",
  "  - name: transfer_flags_t",
  "    kind:",
  "      struct:",
  "        layout: packed",
  "        fields:",
  "          - \x7b name: linked, type: bool \x7d",
  "          - \x7b name: pending, type: bool \x7d",
  "          - \x7b name: post_pending_transfer, type: bool \x7d",
  "          - \x7b name: void_pending_transfer, type: bool \x7d",
  "          - \x7b name: balancing_debit, type: bool \x7d",
  "          - \x7b name: balancing_credit, type: bool \x7d",
  "          - \x7b name: closing_debit, type: bool \x7d",
  "          - \x7b name: closing_credit, type: bool \x7d",
  "          - \x7b name: imported, type: bool \x7d",
  "          - \x7b name: padding, type: u7 \x7d",
  "",
  "  - name: account_filter_flags_t",
  "    kind:",
  "      struct:",
  "        layout: packed",
  "        fields:",
  "          - \x7b name: debits, type: bool \x7d",
  "          - \x7b name: credits, type: bool \x7d",
  "          - \x7b name: reversed, type: bool \x7d",
  "          - \x7b name: padding, type: u29 \x7d",
  "",
  "  - name: query_filter_flags_t",
  "    kind:",
  "      struct:",
  "        layout: packed",
  "        fields:",
  "          - \x7b name: reversed, type: bool \x7d",
  "          - \x7b name: padding, type: u31 \x7d",
  ""]

def records : List String := [
  "  - name: account_t",
  "    kind:",
  "      struct:",
  "        fields:",
  "          - \x7b name: id, type: \"u128\" \x7d",
  "          - \x7b name: debits_pending, type: \"u128\" \x7d",
  "          - \x7b name: debits_posted, type: \"u128\" \x7d",
  "          - \x7b name: credits_pending, type: \"u128\" \x7d",
  "          - \x7b name: credits_posted, type: \"u128\" \x7d",
  "          - \x7b name: user_data_128, type: \"u128\" \x7d",
  "          - \x7b name: user_data_64, type: \"u64\" \x7d",
  "          - \x7b name: user_data_32, type: \"u32\" \x7d",
  "          - \x7b name: reserved, type: \"u32\" \x7d",
  "          - \x7b name: ledger, type: \"u32\" \x7d",
  "          - \x7b name: code, type: \"u16\" \x7d",
  "          - \x7b name: flags, type: \"account_flags_t\" \x7d",
  "          - \x7b name: timestamp, type: \"u64\" \x7d",
  "",
  "  - name: transfer_t",
  "    kind:",
  "      struct:",
  "        fields:",
  "          - \x7b name: id, type: \"u128\" \x7d",
  "          - \x7b name: debit_account_id, type: \"u128\" \x7d",
  "          - \x7b name: credit_account_id, type: \"u128\" \x7d",
  "          - \x7b name: amount, type: \"u128\" \x7d",
  "          - \x7b name: pending_id, type: \"u128\" \x7d",
  "          - \x7b name: user_data_128, type: \"u128\" \x7d",
  "          - \x7b name: user_data_64, type: \"u64\" \x7d",
  "          - \x7b name: user_data_32, type: \"u32\" \x7d",
  "          - \x7b name: timeout, type: \"u32\" \x7d",
  "          - \x7b name: ledger, type: \"u32\" \x7d",
  "          - \x7b name: code, type: \"u16\" \x7d",
  "          - \x7b name: flags, type: \"transfer_flags_t\" \x7d",
  "          - \x7b name: timestamp, type: \"u64\" \x7d",
  ""]

def results : List String := [
  "  - name: create_account_result_t",
  "    kind:",
  "      enum:",
  "        tag: u32",
  "        variants:",
  "          - \x7b name: ok, value: 0 \x7d",
  "          - \x7b name: linked_event_failed, value: 1 \x7d",
  "          - \x7b name: linked_event_chain_open, value: 2 \x7d",
  "          - \x7b name: imported_event_expected, value: 22 \x7d",
  "          - \x7b name: imported_event_not_expected, value: 23 \x7d",
  "          - \x7b name: timestamp_must_be_zero, value: 3 \x7d",
  "          - \x7b name: imported_event_timestamp_out_of_range, value: 24 \x7d",
  "          - \x7b name: imported_event_timestamp_must_not_advance, value: 25 \x7d",
  "          - \x7b name: reserved_field, value: 4 \x7d",
  "          - \x7b name: reserved_flag, value: 5 \x7d",
  "          - \x7b name: id_must_not_be_zero, value: 6 \x7d",
  "          - \x7b name: id_must_not_be_int_max, value: 7 \x7d",
  "          - \x7b name: exists_with_different_flags, value: 15 \x7d",
  "          - \x7b name: exists_with_different_user_data_128, value: 16 \x7d",
  "          - \x7b name: exists_with_different_user_data_64, value: 17 \x7d",
  "          - \x7b name: exists_with_different_user_data_32, value: 18 \x7d",
  "          - \x7b name: exists_with_different_ledger, value: 19 \x7d",
  "          - \x7b name: exists_with_different_code, value: 20 \x7d",
  "          - \x7b name: exists, value: 21 \x7d",
  "          - \x7b name: flags_are_mutually_exclusive, value: 8 \x7d",
  "          - \x7b name: debits_pending_must_be_zero, value: 9 \x7d",
  "          - \x7b name: debits_posted_must_be_zero, value: 10 \x7d",
  "          - \x7b name: credits_pending_must_be_zero, value: 11 \x7d",
  "          - \x7b name: credits_posted_must_be_zero, value: 12 \x7d",
  "          - \x7b name: ledger_must_not_be_zero, value: 13 \x7d",
  "          - \x7b name: code_must_not_be_zero, value: 14 \x7d",
  "          - \x7b name: imported_event_timestamp_must_not_regress, value: 26 \x7d",
  "",
  "  - name: create_transfer_result_t",
  "    kind:",
  "      enum:",
  "        tag: u32",
  "        variants:",
  "          - \x7b name: ok, value: 0 \x7d",
  "          - \x7b name: linked_event_failed, value: 1 \x7d",
  "          - \x7b name: linked_event_chain_open, value: 2 \x7d",
  "          - \x7b name: imported_event_expected, value: 56 \x7d",
  "          - \x7b name: imported_event_not_expected, value: 57 \x7d",
  "          - \x7b name: timestamp_must_be_zero, value: 3 \x7d",
  "          - \x7b name: imported_event_timestamp_out_of_range, value: 58 \x7d",
  "          - \x7b name: imported_event_timestamp_must_not_advance, value: 59 \x7d",
  "          - \x7b name: reserved_flag, value: 4 \x7d",
  "          - \x7b name: id_must_not_be_zero, value: 5 \x7d",
  "          - \x7b name: id_must_not_be_int_max, value: 6 \x7d",
  "          - \x7b name: exists_with_different_flags, value: 36 \x7d",
  "          - \x7b name: exists_with_different_pending_id, value: 40 \x7d",
  "          - \x7b name: exists_with_different_timeout, value: 44 \x7d",
  "          - \x7b name: exists_with_different_debit_account_id, value: 37 \x7d",
  "          - \x7b name: exists_with_different_credit_account_id, value: 38 \x7d",
  "          - \x7b name: exists_with_different_amount, value: 39 \x7d",
  "          - \x7b name: exists_with_different_user_data_128, value: 41 \x7d",
  "          - \x7b name: exists_with_different_user_data_64, value: 42 \x7d",
  "          - \x7b name: exists_with_different_user_data_32, value: 43 \x7d",
  "          - \x7b name: exists_with_different_ledger, value: 67 \x7d",
  "          - \x7b name: exists_with_different_code, value: 45 \x7d",
  "          - \x7b name: exists, value: 46 \x7d",
  "          - \x7b name: id_already_failed, value: 68 \x7d",
  "          - \x7b name: flags_are_mutually_exclusive, value: 7 \x7d",
  "          - \x7b name: debit_account_id_must_not_be_zero, value: 8 \x7d",
  "          - \x7b name: debit_account_id_must_not_be_int_max, value: 9 \x7d",
  "          - \x7b name: credit_account_id_must_not_be_zero, value: 10 \x7d",
  "          - \x7b name: credit_account_id_must_not_be_int_max, value: 11 \x7d",
  "          - \x7b name: accounts_must_be_different, value: 12 \x7d",
  "          - \x7b name: pending_id_must_be_zero, value: 13 \x7d",
  "          - \x7b name: pending_id_must_not_be_zero, value: 14 \x7d",
  "          - \x7b name: pending_id_must_not_be_int_max, value: 15 \x7d",
  "          - \x7b name: pending_id_must_be_different, value: 16 \x7d",
  "          - \x7b name: timeout_reserved_for_pending_transfer, value: 17 \x7d",
  "          - \x7b name: closing_transfer_must_be_pending, value: 64 \x7d",
  "          - \x7b name: ledger_must_not_be_zero, value: 19 \x7d",
  "          - \x7b name: code_must_not_be_zero, value: 20 \x7d",
  "          - \x7b name: debit_account_not_found, value: 21 \x7d",
  "          - \x7b name: credit_account_not_found, value: 22 \x7d",
  "          - \x7b name: accounts_must_have_the_same_ledger, value: 23 \x7d",
  "          - \x7b name: transfer_must_have_the_same_ledger_as_accounts, value: 24 \x7d",
  "          - \x7b name: pending_transfer_not_found, value: 25 \x7d",
  "          - \x7b name: pending_transfer_not_pending, value: 26 \x7d",
  "          - \x7b name: pending_transfer_has_different_debit_account_id, value: 27 \x7d",
  "          - \x7b name: pending_transfer_has_different_credit_account_id, value: 28 \x7d",
  "          - \x7b name: pending_transfer_has_different_ledger, value: 29 \x7d",
  "          - \x7b name: pending_transfer_has_different_code, value: 30 \x7d",
  "          - \x7b name: exceeds_pending_transfer_amount, value: 31 \x7d",
  "          - \x7b name: pending_transfer_has_different_amount, value: 32 \x7d",
  "          - \x7b name: pending_transfer_already_posted, value: 33 \x7d",
  "          - \x7b name: pending_transfer_already_voided, value: 34 \x7d",
  "          - \x7b name: pending_transfer_expired, value: 35 \x7d",
  "          - \x7b name: imported_event_timestamp_must_not_regress, value: 60 \x7d",
  "          - \x7b name: imported_event_timestamp_must_postdate_debit_account, value: 61 \x7d",
  "          - \x7b name: imported_event_timestamp_must_postdate_credit_account, value: 62 \x7d",
  "          - \x7b name: imported_event_timeout_must_be_zero, value: 63 \x7d",
  "          - \x7b name: debit_account_already_closed, value: 65 \x7d",
  "          - \x7b name: credit_account_already_closed, value: 66 \x7d",
  "          - \x7b name: overflows_debits_pending, value: 47 \x7d",
  "          - \x7b name: overflows_credits_pending, value: 48 \x7d",
  "          - \x7b name: overflows_debits_posted, value: 49 \x7d",
  "          - \x7b name: overflows_credits_posted, value: 50 \x7d",
  "          - \x7b name: overflows_debits, value: 51 \x7d",
  "          - \x7b name: overflows_credits, value: 52 \x7d",
  "          - \x7b name: overflows_timeout, value: 53 \x7d",
  "          - \x7b name: exceeds_credits, value: 54 \x7d",
  "          - \x7b name: exceeds_debits, value: 55 \x7d",
  ""]

def queries : List String := [
  "  - name: create_accounts_result_t",
  "    kind:",
  "      struct:",
  "        fields:",
  "          - \x7b name: index, type: \"u32\" \x7d",
  "          - \x7b name: result, type: \"create_account_result_t\" \x7d",
  "",
  "  - name: create_transfers_result_t",
  "    kind:",
  "      struct:",
  "        fields:",
  "          - \x7b name: index, type: \"u32\" \x7d",
  "          - \x7b name: result, type: \"create_transfer_result_t\" \x7d",
  "",
  "  - name: account_filter_t",
  "    kind:",
  "      struct:",
  "        fields:",
  "          - \x7b name: account_id, type: \"u128\" \x7d",
  "          - \x7b name: user_data_128, type: \"u128\" \x7d",
  "          - \x7b name: user_data_64, type: \"u64\" \x7d",
  "          - \x7b name: user_data_32, type: \"u32\" \x7d",
  "          - \x7b name: code, type: \"u16\" \x7d",
  "          - \x7b name: reserved, type: \"[58]u8\" \x7d",
  "          - \x7b name: timestamp_min, type: \"u64\" \x7d",
  "          - \x7b name: timestamp_max, type: \"u64\" \x7d",
  "          - \x7b name: limit, type: \"u32\" \x7d",
  "          - \x7b name: flags, type: \"account_filter_flags_t\" \x7d",
  "",
  "  - name: account_balance_t",
  "    kind:",
  "      struct:",
  "        fields:",
  "          - \x7b name: debits_pending, type: \"u128\" \x7d",
  "          - \x7b name: debits_posted, type: \"u128\" \x7d",
  "          - \x7b name: credits_pending, type: \"u128\" \x7d",
  "          - \x7b name: credits_posted, type: \"u128\" \x7d",
  "          - \x7b name: timestamp, type: \"u64\" \x7d",
  "          - \x7b name: reserved, type: \"[56]u8\" \x7d",
  "",
  "  - name: query_filter_t",
  "    kind:",
  "      struct:",
  "        fields:",
  "          - \x7b name: user_data_128, type: \"u128\" \x7d",
  "          - \x7b name: user_data_64, type: \"u64\" \x7d",
  "          - \x7b name: user_data_32, type: \"u32\" \x7d",
  "          - \x7b name: ledger, type: \"u32\" \x7d",
  "          - \x7b name: code, type: \"u16\" \x7d",
  "          - \x7b name: reserved, type: \"[6]u8\" \x7d",
  "          - \x7b name: timestamp_min, type: \"u64\" \x7d",
  "          - \x7b name: timestamp_max, type: \"u64\" \x7d",
  "          - \x7b name: limit, type: \"u32\" \x7d",
  "          - \x7b name: flags, type: \"query_filter_flags_t\" \x7d",
  ""]

def mappings : List String := [
  "mappings:",
  "  - \x7b type: account_flags_t, name: AccountFlags \x7d",
  "  - \x7b type: transfer_flags_t, name: TransferFlags \x7d",
  "  - \x7b type: account_filter_flags_t, name: AccountFilterFlags \x7d",
  "  - \x7b type: query_filter_flags_t, name: QueryFilterFlags \x7d",
  "  - \x7b type: account_t, name: Account \x7d",
  "  - \x7b type: transfer_t, name: Transfer \x7d",
  "  - \x7b type: create_account_result_t, name: CreateAccountResult \x7d",
  "  - \x7b type: create_transfer_result_t, name: CreateTransferResult \x7d",
  "  - \x7b type: create_accounts_result_t, name: CreateAccountsResult \x7d",
  "  - \x7b type: create_transfers_result_t, name: CreateTransfersResult \x7d",
  "  - \x7b type: account_filter_t, name: AccountFilter \x7d",
  "  - \x7b type: account_balance_t, name: AccountBalance \x7d",
  "  - \x7b type: query_filter_t, name: QueryFilter \x7d",
  "",
  "operations:",
  "  - \x7b name: pulse, arity: single, event: void, result: void, event-name: pulse \x7d",
  "  - \x7b name: create_accounts, arity: batch, event: account_t, " ++
    "result: create_accounts_result_t, event-name: accounts \x7d",
  "  - \x7b name: create_transfers, arity: batch, event: transfer_t, " ++
    "result: create_transfers_result_t, event-name: transfers \x7d",
  "  - \x7b name: lookup_accounts, arity: batch, event: u128, result: account_t, " ++
    "event-name: accounts \x7d",
  "  - \x7b name: lookup_transfers, arity: batch, event: u128, result: transfer_t, " ++
    "event-name: transfers \x7d",
  "  - \x7b name: get_account_transfers, arity: single, event: account_filter_t, " ++
    "result: transfer_t, event-name: filter \x7d",
  "  - \x7b name: get_account_balances, arity: single, event: account_filter_t, " ++
    "result: account_balance_t, event-name: filter \x7d",
  "  - \x7b name: query_accounts, arity: single, event: query_filter_t, " ++
    "result: account_t, event-name: query_filter \x7d",
  "  - \x7b name: query_transfers, arity: single, event: query_filter_t, " ++
    "result: transfer_t, event-name: query_filter \x7d"]

/-- The domain schema: the accounts, transfers, filters and results of the ledger. -/
def text : String := Text.ofLines (flags ++ records ++ results ++ queries ++ mappings)

def document : Document := (Document.parse text).toOption.getD default

end Ledger

end Shipped

/-- A schema that a run reads unless it is given another one. -/
inductive BuiltinSchema where
  | protocol | domain
  deriving DecidableEq, Repr, Inhabited

def BuiltinSchema.text : BuiltinSchema → String
  | .protocol => Shipped.Client.text
  | .domain => Shipped.Ledger.text

end NativeBindings
