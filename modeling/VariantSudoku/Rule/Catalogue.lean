import VariantSudoku.Keyed
import VariantSudoku.Rule.Contents
import VariantSudoku.Rule.Difference
import VariantSudoku.Rule.Distinct
import VariantSudoku.Rule.Dot
import VariantSudoku.Rule.LineSum
import VariantSudoku.Rule.Modifier
import VariantSudoku.Rule.Order
import VariantSudoku.Rule.Parity
import VariantSudoku.Rule.Total
import VariantSudoku.Rule.YinYang

set_option autoImplicit false

namespace VariantSudoku

structure Tool where
  id : String
  shape : Shape
  rule : Rule

abbrev Catalogue := Keyed Tool.id

namespace Catalogue

def toolIds (c : Catalogue) : List String :=
  ascendingTexts c.keys

def standardTools : List Tool :=
  [⟨"killer_cage", .cage, Rule.killerCage⟩,
   ⟨"product_cage", .cage, Rule.productCage⟩,
   ⟨"unique_cage", .cage, Rule.uniqueCage⟩,
   ⟨"extra_region", .cage, Rule.uniqueCage⟩,
   ⟨"clone", .clone, Rule.clone⟩,
   ⟨"same_multiset_cages", .cage, Rule.sameMultisetCages⟩,
   ⟨"thermometer", .line, Rule.thermometer⟩,
   ⟨"slow_thermometer", .line, Rule.slowThermometer⟩,
   ⟨"arrow", .line, Rule.arrow⟩,
   ⟨"palindrome", .line, Rule.palindrome⟩,
   ⟨"renban", .line, Rule.renban⟩,
   ⟨"german_whispers", .line, Rule.germanWhispers⟩,
   ⟨"dutch_whispers", .line, Rule.dutchWhispers⟩,
   ⟨"nabner", .line, Rule.nabner⟩,
   ⟨"parity_line", .line, Rule.parityLine⟩,
   ⟨"between_line", .line, Rule.betweenLine⟩,
   ⟨"region_sum_line", .line, Rule.regionSumLine⟩,
   ⟨"zipper_line", .line, Rule.zipperLine⟩,
   ⟨"odd", .cell, Rule.odd⟩,
   ⟨"even", .cell, Rule.even⟩,
   ⟨"minimum", .cell, Rule.minimum⟩,
   ⟨"maximum", .cell, Rule.maximum⟩,
   ⟨"given", .cell, Rule.given⟩,
   ⟨"little_killer_sum", .cellDirection, Rule.littleKillerSum⟩,
   ⟨"sandwich_sum", .cellDirection, Rule.sandwichSum⟩,
   ⟨"x_sum", .cellDirection, Rule.xSum⟩,
   ⟨"skyscraper", .cellDirection, Rule.skyscraper⟩,
   ⟨Rule.whiteDotTool, .edge, Rule.whiteDot⟩,
   ⟨Rule.blackDotTool, .edge, Rule.blackDot⟩,
   ⟨"xv", .edge, Rule.xv⟩,
   ⟨"greater_than", .edge, Rule.greaterThan⟩,
   ⟨"quadruple", .corner, Rule.quadruple⟩,
   ⟨"anti_knight", .cell, Rule.antiKnight⟩,
   ⟨"anti_king", .cell, Rule.antiKing⟩,
   ⟨"positive_diagonal", .cell, Rule.positiveDiagonal⟩,
   ⟨"negative_diagonal", .cell, Rule.negativeDiagonal⟩,
   ⟨"disjoint_groups", .cell, Rule.disjointGroups⟩,
   ⟨"non_consecutive", .cell, Rule.nonConsecutive⟩,
   ⟨"yin_yang", .cell, Rule.yinYang⟩,
   ⟨doublersTool, .cell, Rule.doublers⟩,
   ⟨negatorsTool, .cell, Rule.negators⟩,
   ⟨"indexer_cells", .cellDirection, Rule.indexerCells⟩]

def standard : Catalogue :=
  ⟨standardTools, by decide⟩

end Catalogue

end VariantSudoku
