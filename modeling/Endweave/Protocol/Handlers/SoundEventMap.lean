import Endweave.Lib.OrderedDict

/-!
# Sound event names

The v975 numeric id of a sound event and the string v1001 has in its place.  The ids run from 0 to
600 with gaps at the blank slots of the enum.
-/

namespace Endweave.V975ToV1001

def soundEventNames : OrderedDict Int String :=
  [(0, "item.use.on"), (1, "hit"), (2, "step"), (3, "fly"), (4, "jump"), (5, "break"), (6, "place"),
   (7, "heavy.step"), (8, "gallop"), (9, "fall"), (10, "ambient"), (11, "ambient.baby"),
   (12, "ambient.in.water"), (13, "breathe"), (14, "death"), (15, "death.in.water"),
   (16, "death.to.zombie"), (17, "hurt"), (18, "hurt.in.water"), (19, "mad"), (20, "boost"),
   (21, "bow"), (22, "squish.big"), (23, "squish.small"), (24, "fall.big"), (25, "fall.small"),
   (26, "splash"), (27, "fizz"), (28, "flap"), (29, "swim"), (30, "drink"), (31, "eat"),
   (32, "takeoff"), (33, "shake"), (34, "plop"), (35, "land"), (36, "saddle"), (37, "armor"),
   (38, "mob.armor_stand.place"), (39, "add.chest"), (40, "throw"), (41, "attack"),
   (42, "attack.nodamage"), (43, "attack.strong"), (44, "warn"), (45, "shear"), (46, "milk"),
   (47, "thunder"), (48, "explode"), (49, "fire"), (50, "ignite"), (51, "fuse"), (52, "stare"),
   (53, "spawn"), (54, "shoot"), (55, "break.block"), (56, "launch"), (57, "blast"),
   (58, "large.blast"), (59, "twinkle"), (60, "remedy"), (61, "unfect"), (62, "levelup"),
   (63, "bow.hit"), (64, "bullet.hit"), (65, "extinguish.fire"), (66, "item.fizz"),
   (67, "chest.open"), (68, "chest.closed"), (69, "shulkerbox.open"), (70, "shulkerbox.closed"),
   (71, "enderchest.open"), (72, "enderchest.closed"), (73, "power.on"), (74, "power.off"),
   (75, "attach"), (76, "detach"), (77, "deny"), (78, "tripod"), (79, "pop"), (80, "drop.slot"),
   (81, "note"), (82, "thorns"), (83, "piston.in"), (84, "piston.out"), (85, "portal"),
   (86, "water"), (87, "lava.pop"), (88, "lava"), (89, "burp"), (90, "bucket.fill.water"),
   (91, "bucket.fill.lava"), (92, "bucket.empty.water"), (93, "bucket.empty.lava"),
   (94, "armor.equip_chain"), (95, "armor.equip_diamond"), (96, "armor.equip_generic"),
   (97, "armor.equip_gold"), (98, "armor.equip_iron"), (99, "armor.equip_leather"),
   (100, "armor.equip_elytra"), (101, "record.13"), (102, "record.cat"), (103, "record.blocks"),
   (104, "record.chirp"), (105, "record.far"), (106, "record.mall"), (107, "record.mellohi"),
   (108, "record.stal"), (109, "record.strad"), (110, "record.ward"), (111, "record.11"),
   (112, "record.wait"), (113, "record.null"), (114, "flop"), (115, "elderguardian.curse"),
   (116, "mob.warning"), (117, "mob.warning.baby"), (118, "teleport"), (119, "shulker.open"),
   (120, "shulker.close"), (121, "haggle"), (122, "haggle.yes"), (123, "haggle.no"),
   (124, "haggle.idle"), (125, "chorusgrow"), (126, "chorusdeath"), (127, "glass"),
   (128, "potion.brewed"), (129, "cast.spell"), (130, "prepare.attack"), (131, "prepare.summon"),
   (132, "prepare.wololo"), (133, "fang"), (134, "charge"), (135, "camera.take_picture"),
   (136, "leashknot.place"), (137, "leashknot.break"), (138, "growl"), (139, "whine"),
   (140, "pant"), (141, "purr"), (142, "purreow"), (143, "death.min.volume"),
   (144, "death.mid.volume"), (145, "imitate.blaze"), (146, "imitate.cave_spider"),
   (147, "imitate.creeper"), (148, "imitate.elder_guardian"), (149, "imitate.ender_dragon"),
   (150, "imitate.enderman"), (151, "imitate.endermite"), (152, "imitate.evocation_illager"),
   (153, "imitate.ghast"), (154, "imitate.husk"), (155, "imitate.illusion_illager"),
   (156, "imitate.magma_cube"), (157, "imitate.polar_bear"), (158, "imitate.shulker"),
   (159, "imitate.silverfish"), (160, "imitate.skeleton"), (161, "imitate.slime"),
   (162, "imitate.spider"), (163, "imitate.stray"), (164, "imitate.vex"),
   (165, "imitate.vindication_illager"), (166, "imitate.witch"), (167, "imitate.wither"),
   (168, "imitate.wither_skeleton"), (169, "imitate.wolf"), (170, "imitate.zombie"),
   (171, "imitate.zombie_pigman"), (172, "imitate.zombie_villager"),
   (173, "block.end_portal_frame.fill"), (174, "block.end_portal.spawn"), (175, "random.anvil_use"),
   (176, "bottle.dragonbreath"), (177, "portal.travel"), (178, "item.trident.hit"),
   (179, "item.trident.return"), (180, "item.trident.riptide_1"), (181, "item.trident.riptide_2"),
   (182, "item.trident.riptide_3"), (183, "item.trident.throw"), (184, "item.trident.thunder"),
   (185, "item.trident.hit_ground"), (186, "default"), (187, "block.fletching_table.use"),
   (188, "elemconstruct.open"), (189, "icebomb.hit"), (190, "balloonpop"),
   (191, "lt.reaction.icebomb"), (192, "lt.reaction.bleach"), (193, "lt.reaction.epaste"),
   (194, "lt.reaction.epaste2"), (195, "lt.reaction.glow_stick"), (196, "lt.reaction.glow_stick2"),
   (197, "lt.reaction.luminol"), (198, "lt.reaction.salt"), (199, "lt.reaction.fertilizer"),
   (200, "lt.reaction.fireball"), (201, "lt.reaction.mgsalt"), (202, "lt.reaction.miscfire"),
   (203, "lt.reaction.fire"), (204, "lt.reaction.miscexplosion"), (205, "lt.reaction.miscmystical"),
   (206, "lt.reaction.miscmystical2"), (207, "lt.reaction.product"), (208, "sparkler.use"),
   (209, "glowstick.use"), (210, "sparkler.active"), (211, "convert_to_drowned"),
   (212, "bucket.fill.fish"), (213, "bucket.empty.fish"), (214, "bubble.up"), (215, "bubble.down"),
   (216, "bubble.pop"), (217, "bubble.upinside"), (218, "bubble.downinside"), (219, "hurt.baby"),
   (220, "death.baby"), (221, "step.baby"), (222, "spawn.baby"), (223, "born"),
   (224, "block.turtle_egg.break"), (225, "block.turtle_egg.crack"),
   (226, "block.turtle_egg.hatch"), (227, "lay_egg"), (228, "block.turtle_egg.attack"),
   (229, "beacon.activate"), (230, "beacon.ambient"), (231, "beacon.deactivate"),
   (232, "beacon.power"), (233, "conduit.activate"), (234, "conduit.ambient"),
   (235, "conduit.attack"), (236, "conduit.deactivate"), (237, "conduit.short"), (238, "swoop"),
   (239, "block.bamboo_sapling.place"), (240, "presneeze"), (241, "sneeze"), (242, "ambient.tame"),
   (243, "scared"), (244, "block.scaffolding.climb"), (245, "crossbow.loading.start"),
   (246, "crossbow.loading.middle"), (247, "crossbow.loading.end"), (248, "crossbow.shoot"),
   (249, "crossbow.quick_charge.start"), (250, "crossbow.quick_charge.middle"),
   (251, "crossbow.quick_charge.end"), (252, "ambient.aggressive"), (253, "ambient.worried"),
   (254, "cant_breed"), (255, "item.shield.block"), (256, "item.book.put"),
   (257, "block.grindstone.use"), (258, "block.bell.hit"), (259, "block.campfire.crackle"),
   (260, "roar"), (261, "stun"), (262, "block.sweet_berry_bush.hurt"),
   (263, "block.sweet_berry_bush.pick"), (264, "block.cartography_table.use"),
   (265, "block.stonecutter.use"), (266, "block.composter.empty"), (267, "block.composter.fill"),
   (268, "block.composter.fill_success"), (269, "block.composter.ready"),
   (270, "block.barrel.open"), (271, "block.barrel.close"), (272, "raid.horn"),
   (273, "block.loom.use"), (274, "ambient.in.raid"), (275, "ui.cartography_table.take_result"),
   (276, "ui.stonecutter.take_result"), (277, "ui.loom.take_result"), (278, "block.smoker.smoke"),
   (279, "block.blastfurnace.fire_crackle"), (280, "block.smithing_table.use"), (281, "screech"),
   (282, "sleep"), (283, "block.furnace.lit"), (284, "convert_mooshroom"),
   (285, "milk_suspiciously"), (286, "celebrate"), (287, "jump.prevent"),
   (288, "ambient.pollinate"), (289, "block.beehive.drip"), (290, "block.beehive.enter"),
   (291, "block.beehive.exit"), (292, "block.beehive.work"), (293, "block.beehive.shear"),
   (294, "drink.honey"), (295, "ambient.cave"), (296, "retreat"), (297, "converted_to_zombified"),
   (298, "admire"), (299, "step_lava"), (300, "tempt"), (301, "panic"), (302, "angry"),
   (303, "ambient.warped_forest.mood"), (304, "ambient.soulsand_valley.mood"),
   (305, "ambient.nether_wastes.mood"), (306, "ambient.basalt_deltas.mood"),
   (307, "ambient.crimson_forest.mood"), (308, "respawn_anchor.charge"),
   (309, "respawn_anchor.deplete"), (310, "respawn_anchor.set_spawn"),
   (311, "respawn_anchor.ambient"), (312, "particle.soul_escape.quiet"),
   (313, "particle.soul_escape.loud"), (314, "record.pigstep"),
   (315, "lodestone_compass.link_compass_to_lodestone"), (316, "smithing_table.use"),
   (317, "armor.equip_netherite"), (318, "ambient.warped_forest.loop"),
   (319, "ambient.soulsand_valley.loop"), (320, "ambient.nether_wastes.loop"),
   (321, "ambient.basalt_deltas.loop"), (322, "ambient.crimson_forest.loop"),
   (323, "ambient.warped_forest.additions"), (324, "ambient.soulsand_valley.additions"),
   (325, "ambient.nether_wastes.additions"), (326, "ambient.basalt_deltas.additions"),
   (327, "ambient.crimson_forest.additions"), (328, "power.on.sculk_sensor"),
   (329, "power.off.sculk_sensor"), (330, "bucket.fill.powder_snow"),
   (331, "bucket.empty.powder_snow"), (332, "cauldron_drip.water.pointed_dripstone"),
   (333, "cauldron_drip.lava.pointed_dripstone"), (334, "drip.water.pointed_dripstone"),
   (335, "drip.lava.pointed_dripstone"), (336, "pick_berries.cave_vines"),
   (337, "tilt_down.big_dripleaf"), (338, "tilt_up.big_dripleaf"), (339, "copper.wax.on"),
   (340, "copper.wax.off"), (341, "scrape"), (342, "mob.player.hurt_drown"),
   (343, "mob.player.hurt_on_fire"), (344, "mob.player.hurt_freeze"), (345, "item.spyglass.use"),
   (346, "item.spyglass.stop_using"), (347, "chime.amethyst_block"), (348, "ambient.screamer"),
   (349, "hurt.screamer"), (350, "death.screamer"), (351, "milk.screamer"), (352, "jump_to_block"),
   (353, "pre_ram"), (354, "pre_ram.screamer"), (355, "ram_impact"), (356, "ram_impact.screamer"),
   (357, "squid.ink_squirt"), (358, "glow_squid.ink_squirt"), (359, "convert_to_stray"),
   (360, "cake.add_candle"), (361, "extinguish.candle"), (362, "ambient.candle"),
   (363, "block.click"), (364, "block.click.fail"), (365, "block.sculk_catalyst.bloom"),
   (366, "block.sculk_shrieker.shriek"), (367, "nearby_close"), (368, "nearby_closer"),
   (369, "nearby_closest"), (370, "agitated"), (371, "record.otherside"), (372, "tongue"),
   (373, "irongolem.crack"), (374, "irongolem.repair"), (375, "listening"), (376, "heartbeat"),
   (377, "horn_break"), (379, "block.sculk.spread"), (380, "charge.sculk"),
   (381, "block.sculk_sensor.place"), (382, "block.sculk_shrieker.place"), (383, "horn_call0"),
   (384, "horn_call1"), (385, "horn_call2"), (386, "horn_call3"), (387, "horn_call4"),
   (388, "horn_call5"), (389, "horn_call6"), (390, "horn_call7"), (426, "imitate.warden"),
   (427, "listening_angry"), (428, "item_given"), (429, "item_taken"), (430, "disappeared"),
   (431, "reappeared"), (432, "drink.milk"), (433, "block.frog_spawn.hatch"), (434, "lay_spawn"),
   (435, "block.frog_spawn.break"), (436, "sonic_boom"), (437, "sonic_charge"),
   (438, "item_thrown"), (439, "record.5"), (440, "convert_to_frog"), (441, "record.playing"),
   (442, "block.enchanting_table.use"), (443, "step_sand"), (444, "dash_ready"),
   (445, "bundle.drop_contents"), (446, "bundle.insert"), (447, "bundle.remove_one"),
   (448, "pressure_plate.click_off"), (449, "pressure_plate.click_on"), (450, "button.click_off"),
   (451, "button.click_on"), (452, "door.open"), (453, "door.close"), (454, "trapdoor.open"),
   (455, "trapdoor.close"), (456, "fence_gate.open"), (457, "fence_gate.close"), (458, "insert"),
   (459, "pickup"), (460, "insert_enchanted"), (461, "pickup_enchanted"), (462, "brush"),
   (463, "brush_completed"), (464, "shatter_pot"), (465, "break_pot"),
   (466, "block.sniffer_egg.crack"), (467, "block.sniffer_egg.hatch"),
   (468, "block.sign.waxed_interact_fail"), (469, "record.relic"), (470, "note.bass"),
   (471, "pumpkin.carve"), (472, "mob.husk.convert_to_zombie"), (473, "mob.pig.death"),
   (474, "mob.hoglin.converted_to_zombified"), (475, "ambient.underwater.enter"),
   (476, "ambient.underwater.exit"), (477, "bottle.fill"), (478, "bottle.empty"),
   (479, "crafter.craft"), (480, "crafter.fail"), (481, "block.decorated_pot.insert"),
   (482, "block.decorated_pot.insert_fail"), (483, "crafter.disable_slot"),
   (484, "trial_spawner.open_shutter"), (485, "trial_spawner.eject_item"),
   (486, "trial_spawner.detect_player"), (487, "trial_spawner.spawn_mob"),
   (488, "trial_spawner.close_shutter"), (489, "trial_spawner.ambient"),
   (490, "block.copper_bulb.turn_on"), (491, "block.copper_bulb.turn_off"), (492, "ambient.in.air"),
   (493, "breeze_wind_charge.burst"), (494, "imitate.breeze"), (495, "mob.armadillo.brush"),
   (496, "mob.armadillo.scute_drop"), (497, "armor.equip_wolf"), (498, "armor.unequip_wolf"),
   (499, "reflect"), (500, "vault.open_shutter"), (501, "vault.close_shutter"),
   (502, "vault.eject_item"), (503, "vault.insert_item"), (504, "vault.insert_item_fail"),
   (505, "vault.ambient"), (506, "vault.activate"), (507, "vault.deactivate"),
   (508, "hurt.reduced"), (509, "wind_charge.burst"), (510, "imitate.bogged"),
   (511, "armor.crack_wolf"), (512, "armor.break_wolf"), (513, "armor.repair_wolf"),
   (514, "mace.smash_air"), (515, "mace.smash_ground"), (516, "trial_spawner.charge_activate"),
   (517, "trial_spawner.ambient_ominous"), (518, "ominous_item_spawner.spawn_item"),
   (519, "ominous_bottle.end_use"), (520, "mace.heavy_smash_ground"),
   (521, "ominous_item_spawner.spawn_item_begin"), (523, "apply_effect.bad_omen"),
   (524, "apply_effect.raid_omen"), (525, "apply_effect.trial_omen"),
   (526, "ominous_item_spawner.about_to_spawn_item"), (527, "record.creator"),
   (528, "record.creator_music_box"), (529, "record.precipice"),
   (530, "vault.reject_rewarded_player"), (531, "imitate.drowned"), (532, "imitate.creaking"),
   (533, "bundle.insert_fail"), (534, "sponge.absorb"), (536, "block.creaking_heart.trail"),
   (537, "creaking_heart_spawn"), (538, "activate"), (539, "deactivate"), (540, "freeze"),
   (541, "unfreeze"), (542, "open"), (543, "open_long"), (544, "close"), (545, "close_long"),
   (546, "imitate.phantom"), (547, "imitate.zoglin"), (548, "imitate.guardian"),
   (549, "imitate.ravager"), (550, "imitate.pillager"), (551, "place_in_water"),
   (552, "state_change"), (553, "imitate.happy_ghast"), (554, "armor.unequip_generic"),
   (555, "record.tears"), (556, "ambient.weather.the_end_light_flash"), (557, "lead.leash"),
   (558, "lead.unleash"), (559, "lead.break"), (560, "unsaddle"), (561, "armor.equip_copper"),
   (562, "record.lava_chicken"), (563, "place_item"), (564, "single_swap"), (565, "multi_swap"),
   (566, "item.enchant.lunge1"), (567, "item.enchant.lunge2"), (568, "item.enchant.lunge3"),
   (569, "attack.critical"), (570, "item.spear.attack_hit"), (571, "item.spear.attack_miss"),
   (572, "item.wooden_spear.attack_hit"), (573, "item.wooden_spear.attack_miss"),
   (574, "imitate.parched"), (575, "imitate.camel_husk"), (576, "item.spear.use"),
   (577, "item.wooden_spear.use"), (578, "saddle_in_water"), (579, "item.stone_spear.attack_hit"),
   (580, "item.iron_spear.attack_hit"), (581, "item.copper_spear.attack_hit"),
   (582, "item.golden_spear.attack_hit"), (583, "item.diamond_spear.attack_hit"),
   (584, "item.netherite_spear.attack_hit"), (585, "item.stone_spear.attack_miss"),
   (586, "item.iron_spear.attack_miss"), (587, "item.copper_spear.attack_miss"),
   (588, "item.golden_spear.attack_miss"), (589, "item.diamond_spear.attack_miss"),
   (590, "item.netherite_spear.attack_miss"), (591, "item.stone_spear.use"),
   (592, "item.iron_spear.use"), (593, "item.copper_spear.use"), (594, "item.golden_spear.use"),
   (595, "item.diamond_spear.use"), (596, "item.netherite_spear.use"), (597, "pause_growth"),
   (598, "reset_growth"), (599, "pushed_by_player"), (600, "bounce")]

/-- The inverse: the string of v1001 to the numeric id of v975. -/
def soundEventIds : OrderedDict String Int := soundEventNames.inverse

end Endweave.V975ToV1001
