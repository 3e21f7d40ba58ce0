import Mos6502.Addressing
import Mos6502.Instruction.Mnemonic

set_option autoImplicit false

namespace Mos6502

structure Instruction where
  mnemonic : Mnemonic
  mode : Mode
deriving DecidableEq

namespace Instruction

def opcodes : List (Byte × Instruction) := [
    (0x69, ⟨.adc, .immediate⟩), (0x65, ⟨.adc, .zeroPage⟩), (0x75, ⟨.adc, .zeroPageX⟩),
    (0x6d, ⟨.adc, .absolute⟩), (0x7d, ⟨.adc, .absoluteX⟩), (0x79, ⟨.adc, .absoluteY⟩),
    (0x61, ⟨.adc, .indexedIndirect⟩), (0x71, ⟨.adc, .indirectIndexed⟩),
    (0x29, ⟨.and, .immediate⟩), (0x25, ⟨.and, .zeroPage⟩), (0x35, ⟨.and, .zeroPageX⟩),
    (0x2d, ⟨.and, .absolute⟩), (0x3d, ⟨.and, .absoluteX⟩), (0x39, ⟨.and, .absoluteY⟩),
    (0x21, ⟨.and, .indexedIndirect⟩), (0x31, ⟨.and, .indirectIndexed⟩),
    (0x0a, ⟨.asl, .accumulator⟩), (0x06, ⟨.asl, .zeroPage⟩), (0x16, ⟨.asl, .zeroPageX⟩),
    (0x0e, ⟨.asl, .absolute⟩), (0x1e, ⟨.asl, .absoluteX⟩),
    (0x90, ⟨.bcc, .relative⟩),
    (0xb0, ⟨.bcs, .relative⟩),
    (0xf0, ⟨.beq, .relative⟩),
    (0x30, ⟨.bmi, .relative⟩),
    (0xd0, ⟨.bne, .relative⟩),
    (0x10, ⟨.bpl, .relative⟩),
    (0x50, ⟨.bvc, .relative⟩),
    (0x70, ⟨.bvs, .relative⟩),
    (0x24, ⟨.bit, .zeroPage⟩), (0x2c, ⟨.bit, .absolute⟩),
    (0x00, ⟨.brk, .implied⟩),
    (0x18, ⟨.clc, .implied⟩),
    (0xd8, ⟨.cld, .implied⟩),
    (0x58, ⟨.cli, .implied⟩),
    (0xb8, ⟨.clv, .implied⟩),
    (0xc9, ⟨.cmp, .immediate⟩), (0xc5, ⟨.cmp, .zeroPage⟩), (0xd5, ⟨.cmp, .zeroPageX⟩),
    (0xcd, ⟨.cmp, .absolute⟩), (0xdd, ⟨.cmp, .absoluteX⟩), (0xd9, ⟨.cmp, .absoluteY⟩),
    (0xc1, ⟨.cmp, .indexedIndirect⟩), (0xd1, ⟨.cmp, .indirectIndexed⟩),
    (0xe0, ⟨.cpx, .immediate⟩), (0xe4, ⟨.cpx, .zeroPage⟩), (0xec, ⟨.cpx, .absolute⟩),
    (0xc0, ⟨.cpy, .immediate⟩), (0xc4, ⟨.cpy, .zeroPage⟩), (0xcc, ⟨.cpy, .absolute⟩),
    (0xc6, ⟨.dec, .zeroPage⟩), (0xd6, ⟨.dec, .zeroPageX⟩), (0xce, ⟨.dec, .absolute⟩),
    (0xde, ⟨.dec, .absoluteX⟩),
    (0xca, ⟨.dex, .implied⟩),
    (0x88, ⟨.dey, .implied⟩),
    (0x49, ⟨.eor, .immediate⟩), (0x45, ⟨.eor, .zeroPage⟩), (0x55, ⟨.eor, .zeroPageX⟩),
    (0x4d, ⟨.eor, .absolute⟩), (0x5d, ⟨.eor, .absoluteX⟩), (0x59, ⟨.eor, .absoluteY⟩),
    (0x41, ⟨.eor, .indexedIndirect⟩), (0x51, ⟨.eor, .indirectIndexed⟩),
    (0xe6, ⟨.inc, .zeroPage⟩), (0xf6, ⟨.inc, .zeroPageX⟩), (0xee, ⟨.inc, .absolute⟩),
    (0xfe, ⟨.inc, .absoluteX⟩),
    (0xe8, ⟨.inx, .implied⟩),
    (0xc8, ⟨.iny, .implied⟩),
    (0x4c, ⟨.jmp, .absolute⟩), (0x6c, ⟨.jmp, .indirect⟩),
    (0x20, ⟨.jsr, .absolute⟩),
    (0xa9, ⟨.lda, .immediate⟩), (0xa5, ⟨.lda, .zeroPage⟩), (0xb5, ⟨.lda, .zeroPageX⟩),
    (0xad, ⟨.lda, .absolute⟩), (0xbd, ⟨.lda, .absoluteX⟩), (0xb9, ⟨.lda, .absoluteY⟩),
    (0xa1, ⟨.lda, .indexedIndirect⟩), (0xb1, ⟨.lda, .indirectIndexed⟩),
    (0xa2, ⟨.ldx, .immediate⟩), (0xa6, ⟨.ldx, .zeroPage⟩), (0xb6, ⟨.ldx, .zeroPageY⟩),
    (0xae, ⟨.ldx, .absolute⟩), (0xbe, ⟨.ldx, .absoluteY⟩),
    (0xa0, ⟨.ldy, .immediate⟩), (0xa4, ⟨.ldy, .zeroPage⟩), (0xb4, ⟨.ldy, .zeroPageX⟩),
    (0xac, ⟨.ldy, .absolute⟩), (0xbc, ⟨.ldy, .absoluteX⟩),
    (0x4a, ⟨.lsr, .accumulator⟩), (0x46, ⟨.lsr, .zeroPage⟩), (0x56, ⟨.lsr, .zeroPageX⟩),
    (0x4e, ⟨.lsr, .absolute⟩), (0x5e, ⟨.lsr, .absoluteX⟩),
    (0xea, ⟨.nop, .implied⟩),
    (0x09, ⟨.ora, .immediate⟩), (0x05, ⟨.ora, .zeroPage⟩), (0x15, ⟨.ora, .zeroPageX⟩),
    (0x0d, ⟨.ora, .absolute⟩), (0x1d, ⟨.ora, .absoluteX⟩), (0x19, ⟨.ora, .absoluteY⟩),
    (0x01, ⟨.ora, .indexedIndirect⟩), (0x11, ⟨.ora, .indirectIndexed⟩),
    (0x48, ⟨.pha, .implied⟩),
    (0x08, ⟨.php, .implied⟩),
    (0x68, ⟨.pla, .implied⟩),
    (0x28, ⟨.plp, .implied⟩),
    (0x2a, ⟨.rol, .accumulator⟩), (0x26, ⟨.rol, .zeroPage⟩), (0x36, ⟨.rol, .zeroPageX⟩),
    (0x2e, ⟨.rol, .absolute⟩), (0x3e, ⟨.rol, .absoluteX⟩),
    (0x6a, ⟨.ror, .accumulator⟩), (0x66, ⟨.ror, .zeroPage⟩), (0x76, ⟨.ror, .zeroPageX⟩),
    (0x6e, ⟨.ror, .absolute⟩), (0x7e, ⟨.ror, .absoluteX⟩),
    (0x40, ⟨.rti, .implied⟩),
    (0x60, ⟨.rts, .implied⟩),
    (0xe9, ⟨.sbc, .immediate⟩), (0xe5, ⟨.sbc, .zeroPage⟩), (0xf5, ⟨.sbc, .zeroPageX⟩),
    (0xed, ⟨.sbc, .absolute⟩), (0xfd, ⟨.sbc, .absoluteX⟩), (0xf9, ⟨.sbc, .absoluteY⟩),
    (0xe1, ⟨.sbc, .indexedIndirect⟩), (0xf1, ⟨.sbc, .indirectIndexed⟩),
    (0x38, ⟨.sec, .implied⟩),
    (0xf8, ⟨.sed, .implied⟩),
    (0x78, ⟨.sei, .implied⟩),
    (0x85, ⟨.sta, .zeroPage⟩), (0x95, ⟨.sta, .zeroPageX⟩), (0x8d, ⟨.sta, .absolute⟩),
    (0x9d, ⟨.sta, .absoluteX⟩), (0x99, ⟨.sta, .absoluteY⟩), (0x81, ⟨.sta, .indexedIndirect⟩),
    (0x91, ⟨.sta, .indirectIndexed⟩),
    (0x86, ⟨.stx, .zeroPage⟩), (0x96, ⟨.stx, .zeroPageY⟩), (0x8e, ⟨.stx, .absolute⟩),
    (0x84, ⟨.sty, .zeroPage⟩), (0x94, ⟨.sty, .zeroPageX⟩), (0x8c, ⟨.sty, .absolute⟩),
    (0xaa, ⟨.tax, .implied⟩),
    (0xa8, ⟨.tay, .implied⟩),
    (0xba, ⟨.tsx, .implied⟩),
    (0x8a, ⟨.txa, .implied⟩),
    (0x9a, ⟨.txs, .implied⟩),
    (0x98, ⟨.tya, .implied⟩)]

def decode (opcode : Byte) : Option Instruction :=
  opcodes.lookup opcode

theorem mem_of_decode {opcode : Byte} {instruction : Instruction}
    (decoded : decode opcode = some instruction) : (opcode, instruction) ∈ opcodes := by
  obtain ⟨before, after, split, _⟩ := List.lookup_eq_some_iff.mp decoded
  simp [split]

end Instruction

end Mos6502
