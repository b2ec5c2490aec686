import ChainParams.Checkpoint

/-!
# Checkpoints of the known networks
-/

namespace ChainParams.Known

/-- The checkpoints of the main network, oldest first. -/
def mainnetCheckpoints : List Checkpoint :=
  [ ⟨4991, .ofNat 0x000000003b01809551952460744d5dbb8fcbd6cbae3c220267bf7fa43f837367⟩,
    ⟨9918, .ofNat 0x00000000213e229f332c0ffbe34defdaa9e74de87f2d8d1f01af8d121c3c170b⟩,
    ⟨16912, .ofNat 0x00000000075c0d10371d55a60634da70f197548dbbfa4123e12abfcbc5738af9⟩,
    ⟨23912, .ofNat 0x0000000000335eac6703f3b1732ec8b2f89c3ba3a7889e5767b090556bb9a276⟩,
    ⟨35457, .ofNat 0x0000000000b0ae211be59b048df14820475ad0dd53b9ff83b010f71a77342d9f⟩,
    ⟨45479, .ofNat 0x000000000063d411655d590590e16960f15ceea4257122ac430c6fbe39fbf02d⟩,
    ⟨55895, .ofNat 0x0000000000ae4c53a43639a4ca027282f69da9c67ba951768a20415b6439a2d7⟩,
    ⟨68899, .ofNat 0x0000000000194ab4d3d9eeb1f2f792f21bb39ff767cb547fe977640f969d77b7⟩,
    ⟨74619, .ofNat 0x000000000011d28f38f05d01650a502cc3f4d0e793fbc26e2a2ca71f07dc3842⟩,
    ⟨75095, .ofNat 0x0000000000193d12f6ad352a9996ee58ef8bdc4946818a5fec5ce99c11b87f0d⟩,
    ⟨88805, .ofNat 0x00000000001392f1652e9bf45cd8bc79dc60fe935277cd11538565b4a94fa85f⟩,
    ⟨107996, .ofNat 0x00000000000a23840ac16115407488267aa3da2b9bc843e301185b7d17e4dc40⟩,
    ⟨137993, .ofNat 0x00000000000cf69ce152b1bffdeddc59188d7a80879210d6e5c9503011929c3c⟩,
    ⟨167996, .ofNat 0x000000000009486020a80f7f2cc065342b0c2fb59af5e090cd813dba68ab0fed⟩,
    ⟨207992, .ofNat 0x00000000000d85c22be098f74576ef00b7aa00c05777e966aff68a270f1e01a5⟩,
    ⟨312645, .ofNat 0x0000000000059dcb71ad35a9e40526c44e7aae6c99169a9e7017b7d84b1c2daf⟩,
    ⟨407452, .ofNat 0x000000000003c6a87e73623b9d70af7cd908ae22fee466063e4ffc20be1d2dbc⟩,
    ⟨523412, .ofNat 0x000000000000e54f036576a10597e0e42cc22a5159ce572f999c33975e121d4d⟩,
    ⟨523930, .ofNat 0x0000000000000bccdb11c2b1cfb0ecab452abf267d89b7f46eaf2d54ce6e652c⟩,
    ⟨750000, .ofNat 0x00000000000000b4181bbbdddbae464ce11fede5d0292fb63fdede1e7c8ab21c⟩]

/-- The checkpoints of the public test network, oldest first. -/
def testnet3Checkpoints : List Checkpoint :=
  [ ⟨261, .ofNat 0x00000c26026d0815a7e2ce4fa270775f61403c040647ff2c3091f99e894a4618⟩,
    ⟨1999, .ofNat 0x00000052e538d27fa53693efe6fb6892a0c1d26c0235f599171c48a3cce553b1⟩,
    ⟨2999, .ofNat 0x0000024bc3f4f4cb30d29827c13d921ad77d2c6072e586c7f60d83c2722cdcc5⟩]

end ChainParams.Known
